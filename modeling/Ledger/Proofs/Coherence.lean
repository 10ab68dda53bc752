import Ledger.Proofs.StepLaws
/-!
# What every run of interleaved calls keeps

`Coherent` is the invariant the safety theorems share: distinct ids, no record or lock held
twice, and each call's phase agreeing with the store, its snapshot fresh while its version
stands. Other calls' steps keep a call's facts, and its own step advances them.
-/

namespace Ledger.Interleaving

open Service Store

/-! ## Fresh snapshots -/

/-- A snapshot of an account is fresh in a store when the account is there, opened at the
same instant, at the snapshot's version or a later one, and with the snapshot's balance
while the versions agree. -/
def Fresh (s : Store) (a : Account) : Prop :=
  ∃ A ∈ s.accounts, A.id = a.id ∧ A.createdAt = a.createdAt ∧ a.version ≤ A.version ∧
    (A.version = a.version → A.balance = a.balance)

theorem Fresh.of_mem {s : Store} {a : Account} (ha : a ∈ s.accounts) : Fresh s a :=
  ⟨a, ha, rfl, rfl, le_rfl, fun _ => rfl⟩

theorem Fresh.of_accounts {s s' : Store} {a : Account} (h : Fresh s a)
    (hacc : s'.accounts = s.accounts) : Fresh s' a := by
  rw [Fresh, hacc]
  exact h

/-- Setting the balance of an account keeps every snapshot fresh: the account it sets
moves past every snapshot's version. -/
theorem Fresh.updateBalance {s s' : Store} {a : Account} {id version : Int} {balance : Decimal}
    {now changed : Instant} {v : Int} (h : Fresh s a) (hnodup : (s.accounts.map (·.id)).Nodup)
    (hupdate : s.updateBalance id version balance now = .ok (s', v, changed)) : Fresh s' a := by
  obtain ⟨A, hA, hid, hcreated, hle, hbal⟩ := h
  obtain ⟨B, hfind, -, -, rfl⟩ := updateBalance_eq_ok hupdate
  by_cases hAid : A.id = id
  · -- the account set is the snapshot's: its version is now past the snapshot's
    have hB : B ∈ s.accounts := List.mem_of_find?_eq_some hfind
    have hBid : B.id = id := by simpa using List.find?_some hfind
    have hAB : B = A := List.inj_on_of_nodup_map hnodup hB hA (hBid.trans hAid.symm)
    subst hAB
    refine ⟨balanceUpdated B balance now, List.mem_map.mpr ⟨B, hA, by simp [hAid]⟩, hid,
      hcreated, by simp only [balanceUpdated]; omega, ?_⟩
    simp only [balanceUpdated]
    omega
  · exact ⟨A, List.mem_map.mpr ⟨A, hA, by simp [hAid]⟩, hid, hcreated, hle, hbal⟩

/-- While a fresh snapshot's version is the stored one, the stored balance is the
snapshot's. -/
theorem Fresh.balance_eq {s : Store} {a A : Account} (h : Fresh s a)
    (hnodup : (s.accounts.map (·.id)).Nodup) (hA : A ∈ s.accounts) (hid : A.id = a.id)
    (hversion : A.version = a.version) : A.balance = a.balance ∧ A.createdAt = a.createdAt := by
  obtain ⟨B, hB, hBid, hcreated, -, hbal⟩ := h
  have hAB : A = B := List.inj_on_of_nodup_map hnodup hA hB (hid.trans hBid.symm)
  subst hAB
  exact ⟨hbal hversion, hcreated⟩

/-! ## The facts of each phase -/

/-- What holds of a call working on a snapshot of its account: its request passed
validation, the snapshot is fresh, and under strict limiting it holds the account's lock. -/
structure Snapshot (set : Setting) (s : Store) (r : Request) (lock : Option Int) (a : Account) :
    Prop where
  valid : validate set.rules r.amount r.type = .ok ()
  fresh : Fresh s a
  lock : lock = if set.strict then some a.id else none

/-- A record drafted for a request, on the account of its snapshot. -/
structure Drafts (r : Request) (a : Account) (t : Transaction) : Prop where
  account : t.accountId = a.id
  type : t.type = r.type
  amount : t.amount = r.amount
  status : t.status = .completed

/-- What a call's phase says about the store. -/
def Call.Coherent (set : Setting) (s : Store) (c : Call) : Prop :=
  match c.phase with
  | .start => c.lock = none
  | .found a => set.strict = true ∧ validate set.rules c.request.amount c.request.type = .ok () ∧
      c.lock = none ∧ s.idOf c.request.number = some a.id
  | .locked => set.strict = true ∧ validate set.rules c.request.amount c.request.type = .ok () ∧
      ∃ x, c.lock = some x ∧ s.idOf c.request.number = some x
  | .ready a | .allowed a => Snapshot set s c.request c.lock a
  | .checked a b at_ =>
    Snapshot set s c.request c.lock a ∧
      applyRules set.rules at_ a c.request.amount c.request.type = .ok b
  | .drafted a b at_ d =>
    Snapshot set s c.request c.lock a ∧
      applyRules set.rules at_ a c.request.amount c.request.type = .ok b ∧ Drafts c.request a d
  | .stored a b at_ t =>
    Snapshot set s c.request c.lock a ∧
      applyRules set.rules at_ a c.request.amount c.request.type = .ok b ∧
      Drafts c.request a t ∧ t ∈ s.records
  | .compensating id _ => ∃ q ∈ s.records, q.id = id ∧ q.status = .completed
  | .marking id _ v => ∃ q ∈ s.records, q.id = id ∧ q.status = .completed ∧ q.version = v
  | .exiting _ | .done _ => True

variable {set : Setting}

theorem Call.coherent_finish (s : Store) (c : Call) (o : Outcome) :
    (c.finish o).Coherent set s := by
  unfold Call.finish
  by_cases hlock : c.lock.isSome <;> simp [hlock, Call.Coherent]

/-- The record a call holds is in the store. -/
theorem Call.Coherent.pending_mem {s : Store} {c : Call} {x : Uuid} (hc : c.Coherent set s)
    (hx : c.phase.pending = some x) : ∃ q ∈ s.records, q.id = x := by
  unfold Call.Coherent at hc
  unfold Phase.pending at hx
  split at hx <;> rename_i hp <;> simp only [hp, Option.some.injEq] at hc hx
  · exact ⟨_, hc.2.2.2, hx⟩
  · obtain ⟨q, hq, hid, -⟩ := hc
    exact ⟨q, hq, hid.trans hx⟩
  · obtain ⟨q, hq, hid, -⟩ := hc
    exact ⟨q, hq, hid.trans hx⟩
  · cases hx

/-- A call's facts survive a change of the store that keeps its snapshots fresh, keeps which
account each number names, and keeps the record the call holds. -/
theorem Call.Coherent.mono {s s' : Store} {c : Call} (hc : c.Coherent set s)
    (hfresh : ∀ a, Fresh s a → Fresh s' a) (hid : s'.idOf = s.idOf)
    (hkeep : ∀ q ∈ s.records, c.phase.pending = some q.id → q ∈ s'.records) :
    c.Coherent set s' := by
  have hsnap : ∀ a, Snapshot set s c.request c.lock a → Snapshot set s' c.request c.lock a :=
    fun a h => ⟨h.valid, hfresh a h.fresh, h.lock⟩
  unfold Call.Coherent at hc ⊢
  unfold Phase.pending at hkeep
  split <;> rename_i hp <;> simp only [hp] at hc hkeep
  · exact hc
  · exact ⟨hc.1, hc.2.1, hc.2.2.1, hid ▸ hc.2.2.2⟩
  · obtain ⟨hstrict, hvalid, x, hlock, hx⟩ := hc
    exact ⟨hstrict, hvalid, x, hlock, hid ▸ hx⟩
  · exact hsnap _ hc
  · exact hsnap _ hc
  · exact ⟨hsnap _ hc.1, hc.2⟩
  · exact ⟨hsnap _ hc.1, hc.2.1, hc.2.2⟩
  · obtain ⟨hs, hrules, hdraft, ht⟩ := hc
    exact ⟨hsnap _ hs, hrules, hdraft, hkeep _ ht rfl⟩
  · obtain ⟨q, hq, rfl, hstatus⟩ := hc
    exact ⟨q, hkeep q hq rfl, rfl, hstatus⟩
  · obtain ⟨q, hq, rfl, hstatus, hversion⟩ := hc
    exact ⟨q, hkeep q hq rfl, rfl, hstatus, hversion⟩
  · trivial
  · trivial

/-- A call's facts survive a step of another call, which holds another record. -/
theorem Call.Coherent.of_effect {s s' : Store} {c c₀ c₀' : Call} {fault : Option Failure}
    {now : Instant} (hc : c.Coherent set s) (hnodup : (s.accounts.map (·.id)).Nodup)
    (heff : Effect fault now c₀ s c₀' s')
    (hother : ∀ x, c₀.phase.pending = some x → c.phase.pending ≠ some x) :
    c.Coherent set s' := by
  cases heff with
  | keep => exact hc
  | lostRead => exact hc
  | lostMark => exact hc
  | insert hp hcreate =>
    obtain ⟨-, -, rfl⟩ := createRecord_eq_ok hcreate
    exact hc.mono (fun a h => h.of_accounts rfl) rfl
      fun q hq _ => List.mem_append_left _ hq
  | commit hp hupdate =>
    exact hc.mono (fun a h => h.updateBalance hnodup hupdate)
      (idOf_eq_of_keys (updateBalance_keys hnodup hupdate))
      fun q hq _ => (updateBalance_records hupdate).symm ▸ hq
  | @mark id f v s' r hp hupdate =>
    -- the record marked is the one the stepping call holds, so not this call's
    have hheld : c₀.phase.pending = some id := by rw [hp]; rfl
    exact hc.mono (fun a h => h.of_accounts (updateStatus_accounts hupdate))
      (by unfold idOf; rw [updateStatus_accounts hupdate])
      fun q hq hq' => mem_updateStatus_of_ne hupdate hq fun h => hother _ hheld (h ▸ hq')


/-- A call's own step turns the facts of its phase into those of its next phase. -/
theorem Call.Coherent.step {busy : Int → Bool} {fault : Option Failure} {c : Call} {sh : Shared}
    (hc : c.Coherent set sh.store) (hrecords : (sh.store.records.map (·.id)).Nodup) :
    (c.step set busy fault sh).1.Coherent set (c.step set busy fault sh).2.store := by
  rcases c with ⟨r, p, l⟩
  cases p with
  | start =>
    have hlock : l = none := hc
    dsimp only [Call.step]
    split
    · trivial
    · rename_i hvalid
      split
      · rename_i a hread
        obtain ⟨-, hfind⟩ := Shared.read_eq_ok _ _ hread
        split
        · exact ⟨‹_›, hvalid, hlock, findByNumber_idOf hfind⟩
        · exact ⟨hvalid, .of_mem (findByNumber_eq_ok hfind).1, by simp [*]⟩
      · trivial
  | found a =>
    obtain ⟨hstrict, hvalid, hlock, hid⟩ := hc
    dsimp only [Call.step]
    split
    · exact ⟨hstrict, hvalid, hlock, hid⟩
    · exact ⟨hstrict, hvalid, a.id, rfl, hid⟩
  | locked =>
    obtain ⟨hstrict, hvalid, x, hlock, hx⟩ := hc
    have hl : l = some x := hlock
    dsimp only [Call.step]
    split
    · -- the second lookup finds the account whose lock the call took
      rename_i a hread
      obtain ⟨-, hfind⟩ := Shared.read_eq_ok _ _ hread
      have hxa : x = a.id := Option.some.inj (hx.symm.trans (findByNumber_idOf hfind))
      exact ⟨hvalid, .of_mem (findByNumber_eq_ok hfind).1, by simp [hstrict, hl, hxa]⟩
    · exact Call.coherent_finish _ _ _
  | ready a =>
    dsimp only [Call.step]
    split
    · exact hc
    · split
      · split
        · exact hc
        · exact Call.coherent_finish _ _ _
      · exact Call.coherent_finish _ _ _
  | allowed a =>
    dsimp only [Call.step]
    split
    · exact ⟨hc, ‹_›⟩
    · exact Call.coherent_finish _ _ _
  | checked a b at_ =>
    obtain ⟨hsnap, hrules⟩ := hc
    exact ⟨hsnap, hrules, rfl, rfl, rfl, rfl⟩
  | drafted a b at_ d =>
    obtain ⟨hsnap, hrules, hdraft⟩ := hc
    dsimp only [Call.step]
    split
    · -- the stored record is the draft, stamped, appended to the records
      rename_i t sh' hw
      obtain ⟨-, rfl, hsh'⟩ := createRecord_eq_ok (Shared.write_eq_ok hw).2.1
      refine ⟨⟨hsnap.valid, hsnap.fresh.of_accounts (by rw [hsh']), hsnap.lock⟩, hrules,
        ⟨hdraft.account, hdraft.type, hdraft.amount, hdraft.status⟩, ?_⟩
      rw [hsh']
      exact List.mem_append_right _ (List.mem_singleton_self _)
    · exact Call.coherent_finish _ _ _
  | stored a b at_ t =>
    obtain ⟨-, -, hdraft, ht⟩ := hc
    dsimp only [Call.step]
    split
    · exact Call.coherent_finish _ _ _
    · exact ⟨t, ht, rfl, hdraft.status⟩
  | compensating id f =>
    obtain ⟨q, hq, rfl, hstatus⟩ := hc
    dsimp only [Call.step]
    split
    · -- the record read back is the one stored under its id, since ids are distinct
      rename_i t hread
      obtain ⟨q', hfind, hversion⟩ := findRecord_eq_ok (Shared.read_eq_ok _ _ hread).2
      rw [find?_id_of_mem hrecords hq, Option.some.injEq] at hfind
      subst hfind
      exact ⟨q, hq, rfl, hstatus, hversion.symm⟩
    · exact Call.coherent_finish _ _ _
  | marking id f v =>
    dsimp only [Call.step]
    split <;> exact Call.coherent_finish _ _ _
  | exiting o => trivial
  | done o => trivial

/-! ## The invariant of a run -/

/-- What every reachable system keeps. -/
structure Coherent (set : Setting) (sys : System n) : Prop where
  /-- Account ids are distinct. -/
  ids : (sys.shared.store.accounts.map (·.id)).Nodup
  /-- Record ids are distinct. -/
  records : (sys.shared.store.records.map (·.id)).Nodup
  /-- Every call's phase agrees with the store. -/
  calls : ∀ i, (sys.calls i).Coherent set sys.shared.store
  /-- No two calls hold the same record. -/
  pending : ∀ i j x, (sys.calls i).phase.pending = some x → (sys.calls j).phase.pending = some x →
    i = j
  /-- No two calls hold the same lock. -/
  locks : ∀ i j x, (sys.calls i).lock = some x → (sys.calls j).lock = some x → i = j

theorem System.busy_eq_false {sys : System n} {x : Int} :
    sys.busy x = false ↔ ∀ j, (sys.calls j).lock ≠ some x := by
  simp [System.busy]

/-- Replacing one call keeps a key held by at most one call, when no other call holds the
key the new call holds. -/
theorem unique_update {κ : Type} (key : Call → Option κ) {calls : Fin n → Call} {i : Fin n}
    {c' : Call} (hunique : ∀ j k x, key (calls j) = some x → key (calls k) = some x → j = k)
    (hnew : ∀ k x, k ≠ i → key c' = some x → key (calls k) = some x → False) :
    ∀ j k x, key (Function.update calls i c' j) = some x →
      key (Function.update calls i c' k) = some x → j = k := by
  intro j k x hjx hkx
  by_cases hj : j = i <;> by_cases hk : k = i
  · rw [hj, hk]
  · subst hj
    rw [Function.update_self] at hjx
    rw [Function.update_of_ne hk] at hkx
    exact (hnew k x hk hjx hkx).elim
  · subst hk
    rw [Function.update_self] at hkx
    rw [Function.update_of_ne hj] at hjx
    exact (hnew j x hj hkx hjx).elim
  · rw [Function.update_of_ne hj] at hjx
    rw [Function.update_of_ne hk] at hkx
    exact hunique j k x hjx hkx

/-- One step of one call keeps the invariant. -/
theorem Coherent.advance {sys : System n} (h : Coherent set sys) (i : Fin n)
    (fault : Option Failure) : Coherent set (sys.advance set i fault) := by
  have hown : ((sys.calls i).step set sys.busy fault sys.shared).1.Coherent set
      ((sys.calls i).step set sys.busy fault sys.shared).2.store := (h.calls i).step h.records
  have heff := Call.step_effect set sys.busy fault (sys.calls i) sys.shared
  have hlock := Call.step_lock set sys.busy fault (sys.calls i) sys.shared
  unfold System.advance
  generalize (sys.calls i).step set sys.busy fault sys.shared = res at hown heff hlock ⊢
  obtain ⟨c', s', clock', issued'⟩ := res
  dsimp only at hown heff hlock ⊢
  -- what call `i` holds after its step, no other call holds
  have hheld : ∀ k x, k ≠ i → c'.phase.pending = some x → (sys.calls k).phase.pending = some x →
      False := by
    intro k x hk hx hkx
    cases heff with
    | keep hpending => exact hk (h.pending k i x hkx (hpending ▸ hx))
    | insert hp hcreate =>
      -- a stored record has a fresh id, and what another call holds is already stored
      obtain ⟨hfresh, rfl, -⟩ := createRecord_eq_ok hcreate
      obtain ⟨q, hq, rfl⟩ := (h.calls k).pending_mem hkx
      exact hfresh q hq (Option.some.inj hx).symm
    | _ => simp at hx
  -- a lock call `i` holds after its step, no other call holds
  have hlocked : ∀ k x, k ≠ i → c'.lock = some x → (sys.calls k).lock = some x → False := by
    intro k x hk hx hkx
    rcases hlock with hsame | ⟨a, -, hfree, hnew⟩ | hnone
    · exact hk (h.locks k i x hkx (hsame ▸ hx))
    · rw [hnew, Option.some.injEq] at hx
      subst hx
      exact System.busy_eq_false.mp hfree k hkx
    · simp [hnone] at hx
  refine ⟨?_, ?_, ?_, ?_, ?_⟩
  · -- only a balance update changes the accounts, and it keeps their ids
    cases heff with
    | commit _ hupdate => rw [updateBalance_ids h.ids hupdate]; exact h.ids
    | insert _ hcreate => rw [createRecord_accounts hcreate]; exact h.ids
    | mark _ hupdate => rw [updateStatus_accounts hupdate]; exact h.ids
    | _ => exact h.ids
  · cases heff with
    | insert _ hcreate => exact createRecord_nodup h.records hcreate
    | commit _ hupdate => rw [updateBalance_records hupdate]; exact h.records
    | mark _ hupdate => rw [updateStatus_ids hupdate]; exact h.records
    | _ => exact h.records
  · -- call `i` is coherent by its own step, every other call by the effect of that step
    refine (Function.forall_update_iff sys.calls fun _ c => c.Coherent set s').2 ⟨hown, ?_⟩
    exact fun j hj => (h.calls j).of_effect h.ids heff fun x hi hj' => hj (h.pending j i x hj' hi)
  · exact unique_update (fun c => c.phase.pending) h.pending hheld
  · exact unique_update Call.lock h.locks hlocked

/-- A call that stored its record holds a current snapshot, the balance the rules gave it,
and a record drafted for its request and in the store. -/
theorem Coherent.stored {sys : System n} (hco : Coherent set sys) {i : Fin n} {a : Account}
    {b : Decimal} {at_ : Instant} {t : Transaction} (hc : (sys.calls i).phase = .stored a b at_ t) :
    Snapshot set sys.shared.store (sys.calls i).request (sys.calls i).lock a ∧
      applyRules set.rules at_ a (sys.calls i).request.amount (sys.calls i).request.type = .ok b ∧
      Drafts (sys.calls i).request a t ∧ t ∈ sys.shared.store.records := by
  have hcall := hco.calls i
  simp only [Call.Coherent, hc] at hcall
  exact hcall

/-- A commit sets the balance of the snapshot's account, which held the snapshot's balance
and version: the compare-and-set succeeds only while the snapshot is the current state. -/
theorem Coherent.commit_current {sys : System n} (hco : Coherent set sys) {i : Fin n}
    {a : Account} {b : Decimal} {at_ : Instant} {t : Transaction} {s' : Store} {v : Int}
    {changed : Instant} (hc : (sys.calls i).phase = .stored a b at_ t)
    (hupdate : sys.shared.store.updateBalance a.id a.version b sys.shared.clock =
      .ok (s', v, changed)) :
    ∃ B ∈ sys.shared.store.accounts, B.id = a.id ∧ B.version = a.version ∧
      B.balance = a.balance ∧ B.createdAt = a.createdAt ∧
      s'.accounts = sys.shared.store.accounts.map fun A =>
        if A.id == a.id then balanceUpdated B b sys.shared.clock else A := by
  obtain ⟨B, hfind, hversion, -, rfl⟩ := updateBalance_eq_ok hupdate
  have hcall := hco.stored hc
  have hB : B ∈ sys.shared.store.accounts := List.mem_of_find?_eq_some hfind
  have hBid : B.id = a.id := by simpa using List.find?_some hfind
  obtain ⟨hbalance, hcreated⟩ := hcall.1.fresh.balance_eq hco.ids hB hBid hversion
  exact ⟨B, hB, hBid, hversion, hbalance, hcreated, rfl⟩

/-- Every step of a system keeps the invariant: the clock moving changes nothing it says. -/
theorem Coherent.step {env : Env} {sys sys' : System n} (h : Coherent set sys)
    (hstep : Step set env sys sys') : Coherent set sys' := by
  cases hstep with
  | call i fault _ _ => exact h.advance i fault
  | tick => exact ⟨h.ids, h.records, h.calls, h.pending, h.locks⟩

/-- Calls not yet started over a store of opened accounts are coherent. -/
theorem Coherent.start {sh : Shared} (reqs : Fin n → Request) (hopen : Opened sh.store) :
    Coherent set (System.start sh reqs) := by
  obtain ⟨hrecords, -, hids⟩ := hopen.facts
  refine ⟨hids, by simp [System.start, hrecords], fun i => rfl, ?_, ?_⟩
  · intro i j x hi
    cases hi
  · intro i j x hi
    cases hi

/-- Every system reachable from calls not yet started, over a store of opened accounts, is
coherent. -/
theorem Coherent.reachable {env : Env} {sh : Shared} {reqs : Fin n → Request} {sys : System n}
    (hopen : Opened sh.store) (hrun : Reachable set env (System.start sh reqs) sys) :
    Coherent set sys := by
  induction hrun with
  | refl => exact .start reqs hopen
  | tail _ hstep ih => exact ih.step hstep

end Ledger.Interleaving
