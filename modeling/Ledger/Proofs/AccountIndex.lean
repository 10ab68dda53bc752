import Ledger.Proofs.RecordLife
/-!
# The account index of the in-memory store

In every reachable store account ids and numbers are distinct and the lookups by id and by
number are inverse; opening an account and updating its balance touch that account alone
(`accounts_indexed_with_compare_and_set`).
-/

namespace Ledger.Store

theorem accountOf_eq_some {s : Store} {i : Int} {a : Account} (h : s.accountOf i = some a) :
    a ∈ s.accounts ∧ a.id = i := by
  unfold accountOf at h
  exact ⟨List.mem_of_find?_eq_some h, by simpa using List.find?_some h⟩

theorem accountOf_eq_none {s : Store} {i : Int} : s.accountOf i = none ↔ ∀ a ∈ s.accounts, a.id ≠ i := by
  simp [accountOf, List.find?_eq_none]

/-! ## What each changing call does to the accounts -/

/-- Opening an account succeeds exactly on an unused number, appends the account under the
next id and counts that id as handed out. -/
theorem createAccount_eq_ok {s s' : Store} {a b : Account} {now : Instant}
    (h : s.createAccount a now = .ok (s', b)) :
    (∀ c ∈ s.accounts, c.number ≠ a.number) ∧
      b = ⟨s.lastId + 1, a.number, a.balance, if a.createdAt.isZero then now else a.createdAt,
        now, 0⟩ ∧
      s' = { s with lastId := s.lastId + 1, accounts := s.accounts ++ [b] } := by
  unfold createAccount at h
  split at h
  · cases h
  · rename_i hunused
    simp only [Except.ok.injEq, Prod.mk.injEq] at h
    obtain ⟨rfl, rfl⟩ := h
    refine ⟨fun c hc heq => hunused (List.any_eq_true.mpr ⟨c, hc, by simp [heq]⟩), rfl, rfl⟩

theorem createAccount_error_iff (s : Store) (a : Account) (now : Instant) :
    (∃ f, s.createAccount a now = .error f) ↔ ∃ c ∈ s.accounts, c.number = a.number := by
  constructor
  · rintro ⟨f, h⟩
    unfold createAccount at h
    split at h
    · rename_i hused
      obtain ⟨c, hc, heq⟩ := List.any_eq_true.mp hused
      exact ⟨c, hc, by simpa using heq⟩
    · cases h
  · rintro ⟨c, hc, heq⟩
    have hused : s.accounts.any (·.number == a.number) = true :=
      List.any_eq_true.mpr ⟨c, hc, by simp [heq]⟩
    simp [createAccount, hused]

/-- A balance update rewrites the account found under its id, and no other. -/
theorem accountOf_updateBalance {s s' : Store} {id version : Int} {balance : Decimal}
    {now changed : Instant} {v : Int}
    (h : s.updateBalance id version balance now = .ok (s', v, changed)) :
    ∃ a, s.accountOf id = some a ∧ a.version = version ∧ s'.lastId = s.lastId ∧
      s'.records = s.records ∧ ∀ i, s'.accountOf i =
        if i = id then some (balanceUpdated a balance now) else s.accountOf i := by
  obtain ⟨a, hfind, hversion, -, rfl⟩ := updateBalance_eq_ok h
  have haid : a.id = id := by simpa using List.find?_some hfind
  refine ⟨a, hfind, hversion, rfl, rfl, fun i => ?_⟩
  -- the rewrite keeps every id, so the search for `i` stops at the same account
  have hsearch : ((fun b : Account => b.id == i) ∘ fun b =>
      if b.id == id then balanceUpdated a balance now else b) = fun b => b.id == i := by
    funext b
    by_cases hb : b.id = id
    · simp [hb, balanceUpdated, haid]
    · simp [hb]
  simp only [accountOf, List.find?_map, hsearch]
  by_cases hi : i = id
  · subst hi
    simp [hfind, haid]
  · cases hq : s.accounts.find? (·.id == i) with
    | none => simp [hi]
    | some q =>
      have hqid : q.id = i := by simpa using List.find?_some hq
      simp [hi, hqid]

theorem updateBalance_ok_iff (s : Store) (id version : Int) (balance : Decimal) (now : Instant) :
    (∃ r, s.updateBalance id version balance now = .ok r) ↔
      ∃ a, s.accountOf id = some a ∧ a.version = version := by
  constructor
  · rintro ⟨⟨s', v, changed⟩, h⟩
    obtain ⟨a, hfind, hversion, -⟩ := accountOf_updateBalance h
    exact ⟨a, hfind, hversion⟩
  · rintro ⟨a, hfind, rfl⟩
    unfold accountOf at hfind
    simp [updateBalance, hfind]

/-- A balance update is refused only as a version conflict. -/
theorem updateBalance_error {s : Store} {id version : Int} {balance : Decimal} {now : Instant}
    {f : Failure} (h : s.updateBalance id version balance now = .error f) :
    f = .refused .versionConflict := by
  unfold updateBalance at h
  split at h
  · split at h
    · simp only [Except.error.injEq] at h
      exact h.symm
    · cases h
  · simp only [Except.error.injEq] at h
    exact h.symm

/-! ## The index invariant -/

/-- What holds of the accounts of every reachable store: distinct ids, distinct numbers,
and every id between 1 and the last id handed out. -/
structure AccountsIndexed (s : Store) : Prop where
  ids : (s.accounts.map (·.id)).Nodup
  numbers : (s.accounts.map (·.number)).Nodup
  issued : ∀ a ∈ s.accounts, 0 < a.id ∧ a.id ≤ s.lastId
  lastNonneg : 0 ≤ s.lastId

theorem AccountsIndexed.empty : AccountsIndexed {} := ⟨by simp, by simp, by simp, le_rfl⟩

theorem AccountsIndexed.of_accounts_eq {s s' : Store} (hs : AccountsIndexed s)
    (haccounts : s'.accounts = s.accounts) (hlast : s'.lastId = s.lastId) : AccountsIndexed s' :=
  ⟨haccounts ▸ hs.ids, haccounts ▸ hs.numbers, haccounts ▸ hlast ▸ hs.issued,
    hlast ▸ hs.lastNonneg⟩

/-- Opening an account keeps the index: the id handed out is above every stored one and the
number was unused. -/
theorem AccountsIndexed.createAccount {s s' : Store} {a b : Account} {now : Instant}
    (hs : AccountsIndexed s) (h : s.createAccount a now = .ok (s', b)) : AccountsIndexed s' := by
  obtain ⟨hunused, rfl, rfl⟩ := createAccount_eq_ok h
  have hlast := hs.lastNonneg
  refine ⟨?_, ?_, ?_, by simp only; omega⟩
  · rw [List.map_append, List.nodup_append]
    refine ⟨hs.ids, by simp, ?_⟩
    intro x hx y hy
    obtain ⟨c, hc, rfl⟩ := List.mem_map.mp hx
    simp only [List.map_cons, List.map_nil, List.mem_singleton] at hy
    have := (hs.issued c hc).2
    omega
  · rw [List.map_append, List.nodup_append]
    refine ⟨hs.numbers, by simp, ?_⟩
    intro x hx y hy
    obtain ⟨c, hc, rfl⟩ := List.mem_map.mp hx
    simp only [List.map_cons, List.map_nil, List.mem_singleton] at hy
    rw [hy]
    exact hunused c hc
  · intro c hc
    rcases List.mem_append.mp hc with hc | hc
    · have := hs.issued c hc
      exact ⟨this.1, by simp only; omega⟩
    · simp only [List.mem_singleton] at hc
      subst hc
      simp only
      omega

theorem AccountsIndexed.apply {s : Store} (hs : AccountsIndexed s) (now : Instant) (c : Call) :
    AccountsIndexed (c.apply s now) := by
  rcases Call.apply_cases s now c with hsame | ⟨a, b, h⟩ | ⟨id, version, balance, ⟨v, changed⟩, h⟩ |
      ⟨t, t', h⟩ | ⟨id, status, version, ⟨v, changed⟩, h⟩
  · rwa [hsame]
  · exact hs.createAccount h
  · have hkeys := updateBalance_keys hs.ids h
    have hnumbers : (c.apply s now).accounts.map (·.number) = s.accounts.map (·.number) := by
      simpa only [keys, List.map_map, Function.comp_def] using congrArg (List.map Prod.snd) hkeys
    have hids := updateBalance_ids hs.ids h
    obtain ⟨a, -, -, hlast, -⟩ := accountOf_updateBalance h
    refine ⟨hids ▸ hs.ids, hnumbers ▸ hs.numbers, fun x hx => ?_, hlast ▸ hs.lastNonneg⟩
    -- the account rewritten keeps an id that was handed out
    have hxid : x.id ∈ s.accounts.map (·.id) := hids ▸ List.mem_map_of_mem hx
    obtain ⟨y, hy, hyx⟩ := List.mem_map.mp hxid
    rw [hlast, ← hyx]
    exact hs.issued y hy
  · obtain ⟨-, -, hs'⟩ := createRecord_eq_ok h
    exact hs.of_accounts_eq (by rw [hs']) (by rw [hs'])
  · obtain ⟨t, -, -, -, hs'⟩ := updateStatus_eq_ok h
    exact hs.of_accounts_eq (by rw [hs']) (by rw [hs'])

theorem Reachable.accountsIndexed {s : Store} (h : Reachable s) : AccountsIndexed s := by
  induction h with
  | empty => exact .empty
  | call now c _ ih => exact ih.apply now c

/-! ## The two lookups -/

theorem AccountsIndexed.accountOf_of_mem {s : Store} (hs : AccountsIndexed s) {a : Account}
    (ha : a ∈ s.accounts) : s.accountOf a.id = some a :=
  find?_key_of_mem hs.ids ha

/-- A number names an id exactly when an account has both. -/
theorem AccountsIndexed.idOf_eq_some_iff {s : Store} (hs : AccountsIndexed s) (n : Bytes)
    (i : Int) : s.idOf n = some i ↔ ∃ a ∈ s.accounts, a.id = i ∧ a.number = n := by
  constructor
  · intro h
    obtain ⟨a, hfind, rfl⟩ := Option.map_eq_some_iff.mp h
    exact ⟨a, List.mem_of_find?_eq_some hfind, rfl, by simpa using List.find?_some hfind⟩
  · rintro ⟨a, ha, rfl, rfl⟩
    have hfind : s.accounts.find? (·.number == a.number) = some a := find?_key_of_mem hs.numbers ha
    simp [idOf, hfind]

/-- The number index and the accounts by id are inverse to each other. -/
theorem AccountsIndexed.idOf_iff_accountOf {s : Store} (hs : AccountsIndexed s) (n : Bytes)
    (i : Int) : s.idOf n = some i ↔ (s.accountOf i).map (·.number) = some n := by
  rw [hs.idOf_eq_some_iff, Option.map_eq_some_iff]
  constructor
  · rintro ⟨a, ha, rfl, rfl⟩
    exact ⟨a, hs.accountOf_of_mem ha, rfl⟩
  · rintro ⟨a, hfind, rfl⟩
    obtain ⟨ha, rfl⟩ := accountOf_eq_some hfind
    exact ⟨a, ha, rfl, rfl⟩

theorem AccountsIndexed.findByNumber_ok_iff {s : Store} (hs : AccountsIndexed s) (n : Bytes)
    (a : Account) : s.findByNumber n = .ok a ↔ a ∈ s.accounts ∧ a.number = n := by
  refine ⟨findByNumber_eq_ok, ?_⟩
  rintro ⟨ha, rfl⟩
  have hfind : s.accounts.find? (·.number == a.number) = some a := find?_key_of_mem hs.numbers ha
  simp [findByNumber, hfind]

theorem findByNumber_error_iff (s : Store) (n : Bytes) (f : Failure) :
    s.findByNumber n = .error f ↔ f = .refused .notFound ∧ ∀ a ∈ s.accounts, a.number ≠ n := by
  unfold findByNumber
  cases hfind : s.accounts.find? (·.number == n) with
  | some a =>
    have ha := List.mem_of_find?_eq_some hfind
    have hnumber : a.number = n := by simpa using List.find?_some hfind
    simp only [reduceCtorEq, false_iff, not_and, not_forall, not_not]
    exact fun _ => ⟨a, ha, hnumber⟩
  | none =>
    have hnone := List.find?_eq_none.mp hfind
    simp only [Except.error.injEq]
    exact ⟨fun h => ⟨h.symm, fun a ha => by simpa using hnone a ha⟩, fun h => h.1.symm⟩

/-! ## The life of an account -/

/-- One step of an account's life, seen through its id: no account has the id; an account
is opened under the next id, at version 0, changed at `now`; the account stays as it is; or
its balance is set, at the next version, changed at `now`, with its id, number and opening
time kept. -/
inductive AccountMove (lastId : Int) (now : Instant) : Option Account → Option Account → Prop
  | absent : AccountMove lastId now none none
  | opened {a : Account} (hid : a.id = lastId + 1) (hversion : a.version = 0)
      (hchanged : a.lastModifiedAt = now) : AccountMove lastId now none (some a)
  | kept {a : Account} : AccountMove lastId now (some a) (some a)
  | balanced {a : Account} (balance : Decimal) :
      AccountMove lastId now (some a) (some (balanceUpdated a balance now))

/-- A call that leaves an account's id alone is a step of the machine there. -/
theorem AccountMove.stay (lastId : Int) (now : Instant) : ∀ o : Option Account, AccountMove lastId now o o
  | none => .absent
  | some _ => .kept

/-- An account keeps its id, number and opening time. -/
theorem AccountMove.keeps {lastId : Int} {now : Instant} {a a' : Account}
    (h : AccountMove lastId now (some a) (some a')) :
    a'.id = a.id ∧ a'.number = a.number ∧ a'.createdAt = a.createdAt := by
  cases h <;> simp [balanceUpdated]

/-- No account has the next id. -/
theorem AccountsIndexed.accountOf_next {s : Store} (hs : AccountsIndexed s) :
    s.accountOf (s.lastId + 1) = none := by
  rw [accountOf_eq_none]
  intro c hc heq
  have := (hs.issued c hc).2
  omega

/-- Opening an account adds it under the next id, which no account had, and changes no
other. -/
theorem AccountsIndexed.accountOf_createAccount {s s' : Store} {a b : Account} {now : Instant}
    (hs : AccountsIndexed s) (h : s.createAccount a now = .ok (s', b)) (i : Int) :
    s'.accountOf i = if i = b.id then some b else s.accountOf i := by
  obtain ⟨-, hb, rfl⟩ := createAccount_eq_ok h
  have hfree : s.accountOf b.id = none := by
    rw [hb]
    exact hs.accountOf_next
  simp only [accountOf, List.find?_append]
  by_cases hi : i = b.id
  · subst hi
    simp only [accountOf] at hfree
    simp [hfree]
  · cases hfind : s.accounts.find? (·.id == i) with
    | some q => simp [hi]
    | none => simp [hi, Ne.symm hi]

/-- Every call moves the account under every id by one step of its life. -/
theorem AccountsIndexed.move {s : Store} (hs : AccountsIndexed s) (now : Instant) (c : Call)
    (i : Int) : AccountMove s.lastId now (s.accountOf i) ((c.apply s now).accountOf i) := by
  rcases Call.apply_cases s now c with hsame | ⟨a, b, h⟩ | ⟨id, version, balance, ⟨v, changed⟩, h⟩ |
      ⟨t, t', h⟩ | ⟨id, status, version, ⟨v, changed⟩, h⟩
  · rw [hsame]
    exact .stay s.lastId now _
  · rw [hs.accountOf_createAccount h i]
    obtain ⟨-, hb, -⟩ := createAccount_eq_ok h
    by_cases hi : i = b.id
    · subst hi
      have hfree : s.accountOf b.id = none := by
        rw [hb]
        exact hs.accountOf_next
      rw [hfree, if_pos rfl]
      exact .opened (by rw [hb]) (by rw [hb]) (by rw [hb])
    · rw [if_neg hi]
      exact .stay s.lastId now _
  · obtain ⟨a, hfind, -, -, -, hafter⟩ := accountOf_updateBalance h
    rw [hafter i]
    by_cases hi : i = id
    · subst hi
      rw [hfind, if_pos rfl]
      exact .balanced balance
    · rw [if_neg hi]
      exact .stay s.lastId now _
  · obtain ⟨-, -, hs'⟩ := createRecord_eq_ok h
    simp only [accountOf, hs']
    exact .stay s.lastId now _
  · obtain ⟨t, -, -, -, hs'⟩ := updateStatus_eq_ok h
    simp only [accountOf, hs']
    exact .stay s.lastId now _

/-- In every reachable store the account index is sound, every call moves every account by a
step of `AccountMove`, and opening, balance updates and lookups by number succeed exactly
when they should. -/
theorem accounts_indexed_with_compare_and_set {s : Store} (hs : Reachable s) (now : Instant) :
    AccountsIndexed s ∧
    (∀ n i, s.idOf n = some i ↔ (s.accountOf i).map (·.number) = some n) ∧
    (∀ i a, s.accountOf i = some a → a.id = i) ∧
    (∀ (c : Call) i, AccountMove s.lastId now (s.accountOf i) ((c.apply s now).accountOf i)) ∧
    (∀ a, (∃ f, s.createAccount a now = .error f) ↔ ∃ b ∈ s.accounts, b.number = a.number) ∧
    (∀ a f, s.createAccount a now = .error f → (Call.createAccount a).apply s now = s) ∧
    (∀ id version balance, (∃ r, s.updateBalance id version balance now = .ok r) ↔
      ∃ a, s.accountOf id = some a ∧ a.version = version) ∧
    (∀ id version balance s' r, s.updateBalance id version balance now = .ok (s', r) →
      ∃ a, s.accountOf id = some a ∧ s'.accountOf id = some (balanceUpdated a balance now) ∧
        (∀ i, i ≠ id → s'.accountOf i = s.accountOf i) ∧ s'.lastId = s.lastId ∧
        s'.records = s.records) ∧
    (∀ id version balance f, s.updateBalance id version balance now = .error f →
      f = .refused .versionConflict ∧ (Call.updateBalance id version balance).apply s now = s) ∧
    (∀ n a, s.findByNumber n = .ok a ↔ a ∈ s.accounts ∧ a.number = n) ∧
    (∀ n f, s.findByNumber n = .error f ↔ f = .refused .notFound ∧ ∀ a ∈ s.accounts, a.number ≠ n) := by
  have hindexed := hs.accountsIndexed
  refine ⟨hindexed, hindexed.idOf_iff_accountOf, fun i a h => (accountOf_eq_some h).2,
    hindexed.move now, fun a => createAccount_error_iff s a now,
    fun a f h => by simp [Call.apply, h],
    fun id version balance => updateBalance_ok_iff s id version balance now, ?_,
    fun id version balance f h => ⟨updateBalance_error h, by simp [Call.apply, h]⟩,
    hindexed.findByNumber_ok_iff, findByNumber_error_iff s⟩
  -- a successful update rewrites the account under its id alone
  rintro id version balance s' ⟨v, changed⟩ h
  obtain ⟨a, hfind, -, hlast, hrecords, hafter⟩ := accountOf_updateBalance h
  exact ⟨a, hfind, by rw [hafter id, if_pos rfl], fun i hi => by rw [hafter i, if_neg hi],
    hlast, hrecords⟩

/-- The store after one account, numbered `ACC1` with a balance of 250, is opened. -/
theorem accounts_indexed_with_compare_and_set_after_one_opening :
    let s := (Call.createAccount ⟨0, Bytes.ofString "ACC1", Decimal.ofInt 250, Instant.zero,
      Instant.zero, 0⟩).apply {} (Instant.ofMillis 1000)
    let now := Instant.ofMillis 2000
    Reachable s ∧ (AccountsIndexed s ∧
    (∀ n i, s.idOf n = some i ↔ (s.accountOf i).map (·.number) = some n) ∧
    (∀ i a, s.accountOf i = some a → a.id = i) ∧
    (∀ (c : Call) i, AccountMove s.lastId now (s.accountOf i) ((c.apply s now).accountOf i)) ∧
    (∀ a, (∃ f, s.createAccount a now = .error f) ↔ ∃ b ∈ s.accounts, b.number = a.number) ∧
    (∀ a f, s.createAccount a now = .error f → (Call.createAccount a).apply s now = s) ∧
    (∀ id version balance, (∃ r, s.updateBalance id version balance now = .ok r) ↔
      ∃ a, s.accountOf id = some a ∧ a.version = version) ∧
    (∀ id version balance s' r, s.updateBalance id version balance now = .ok (s', r) →
      ∃ a, s.accountOf id = some a ∧ s'.accountOf id = some (balanceUpdated a balance now) ∧
        (∀ i, i ≠ id → s'.accountOf i = s.accountOf i) ∧ s'.lastId = s.lastId ∧
        s'.records = s.records) ∧
    (∀ id version balance f, s.updateBalance id version balance now = .error f →
      f = .refused .versionConflict ∧ (Call.updateBalance id version balance).apply s now = s) ∧
    (∀ n a, s.findByNumber n = .ok a ↔ a ∈ s.accounts ∧ a.number = n) ∧
    (∀ n f, s.findByNumber n = .error f ↔
      f = .refused .notFound ∧ ∀ a ∈ s.accounts, a.number ≠ n)) :=
  ⟨.call _ _ .empty, accounts_indexed_with_compare_and_set (.call _ _ .empty) _⟩

end Ledger.Store
