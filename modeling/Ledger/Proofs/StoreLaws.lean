import Mathlib
import Ledger.Store.Memory
/-!
# Laws of the in-memory store

One lemma for each operation the engine calls, saying what a successful call read or
changed. A store whose accounts were opened by `createAccount` and that holds no records is
`Opened`.
-/

namespace Ledger.Store

/-- The account with a given id that a compare-and-set update writes. -/
def balanceUpdated (a : Account) (balance : Decimal) (now : Instant) : Account :=
  { a with balance := balance, version := a.version + 1, lastModifiedAt := now }

/-- The record that a status update writes. -/
def statusUpdated (t : Transaction) (status : TxnStatus) (now : Instant) : Transaction :=
  { t with status := status, version := t.version + 1, lastModifiedAt := now }

theorem findByNumber_eq_ok {s : Store} {number : Bytes} {a : Account}
    (h : s.findByNumber number = .ok a) : a ∈ s.accounts ∧ a.number = number := by
  unfold findByNumber at h
  split at h
  · rename_i a' hfind
    cases h
    exact ⟨List.mem_of_find?_eq_some hfind, by simpa using List.find?_some hfind⟩
  · cases h

theorem updateBalance_eq_ok {s s' : Store} {id version : Int} {balance : Decimal}
    {now changed : Instant} {v : Int}
    (h : s.updateBalance id version balance now = .ok (s', v, changed)) :
    ∃ a, s.accounts.find? (·.id == id) = some a ∧ a.version = version ∧ v = version + 1 ∧
      s' = { s with accounts := s.accounts.map fun b =>
        if b.id == id then balanceUpdated a balance now else b } := by
  unfold updateBalance at h
  split at h
  · rename_i a hfind
    split at h
    · cases h
    · rename_i hversion
      simp only [bne_iff_ne, ne_eq, Decidable.not_not] at hversion
      simp only [Except.ok.injEq, Prod.mk.injEq] at h
      obtain ⟨rfl, rfl, -⟩ := h
      exact ⟨a, hfind, hversion, by rw [hversion], rfl⟩
  · cases h

theorem createRecord_eq_ok {s s' : Store} {t t' : Transaction} {now : Instant}
    (h : s.createRecord t now = .ok (s', t')) :
    (∀ q ∈ s.records, q.id ≠ t.id) ∧
      t' = { t with
        timestamp := if t.timestamp.isZero then now else t.timestamp
        lastModifiedAt := if t.timestamp.isZero then now else t.timestamp
        version := 0 } ∧
      s' = { s with records := s.records ++ [t'] } := by
  unfold createRecord at h
  split at h
  · cases h
  · rename_i hfresh
    simp only [Except.ok.injEq, Prod.mk.injEq] at h
    obtain ⟨rfl, rfl⟩ := h
    refine ⟨?_, rfl, rfl⟩
    intro q hq heq
    exact hfresh (List.any_eq_true.mpr ⟨q, hq, by simp [heq]⟩)

theorem findRecord_eq_ok {s : Store} {id : Uuid} {t : Transaction}
    (h : s.findRecord id = .ok t) :
    ∃ q, s.records.find? (·.id == id) = some q ∧ t.version = q.version := by
  unfold findRecord at h
  split at h
  · rename_i q hfind
    cases h
    refine ⟨q, hfind, ?_⟩
    unfold withNumber
    split <;> rfl
  · cases h

theorem updateStatus_eq_ok {s s' : Store} {id : Uuid} {status : TxnStatus} {version : Int}
    {now changed : Instant} {v : Int}
    (h : s.updateStatus id status version now = .ok (s', v, changed)) :
    ∃ t, s.records.find? (·.id == id) = some t ∧ t.status.canBecome status = true ∧
      t.version = version ∧
      s' = { s with records := s.records.map fun r =>
        if r.id == id then statusUpdated t status now else r } := by
  unfold updateStatus at h
  split at h
  · cases h
  · rename_i t hfind
    split at h
    · cases h
    · rename_i hmove
      split at h
      · cases h
      · rename_i hversion
        simp only [bne_iff_ne, ne_eq, Decidable.not_not] at hversion
        simp only [Except.ok.injEq, Prod.mk.injEq] at h
        obtain ⟨rfl, -, -⟩ := h
        exact ⟨t, hfind, by simpa using hmove, hversion, rfl⟩

/-- A record that is found completed at the version named can be marked failed. -/
theorem updateStatus_failed_ok {s : Store} {id : Uuid} {t : Transaction} {now : Instant}
    (hfind : s.records.find? (·.id == id) = some t) (hstatus : t.status = .completed) :
    ∃ r, s.updateStatus id .failed t.version now = .ok r := by
  simp [updateStatus, hfind, hstatus, TxnStatus.canBecome]

/-- A stored record can be read back. -/
theorem findRecord_ok_of_mem {s : Store} {id : Uuid} {q : Transaction} (hq : q ∈ s.records)
    (hid : q.id = id) : ∃ t, s.findRecord id = .ok t := by
  unfold findRecord
  cases hfind : s.records.find? (·.id == id) with
  | some t => exact ⟨_, rfl⟩
  | none =>
    have hnone := List.find?_eq_none.mp hfind q hq
    simp [hid] at hnone

/-! ## What each update keeps -/

/-- The ids and numbers of a store's accounts, in order: what no transaction changes. -/
def keys (s : Store) : List (Int × Bytes) := s.accounts.map fun a => (a.id, a.number)

/-- The id of the account a number names: the first account with that number. -/
def idOf (s : Store) (number : Bytes) : Option Int :=
  (s.accounts.find? (·.number == number)).map (·.id)

theorem idOf_eq_keys (s : Store) (number : Bytes) :
    s.idOf number = (s.keys.find? (·.2 == number)).map (·.1) := by
  simp only [idOf, keys, List.find?_map, Option.map_map]
  rfl

/-- Which account a number names depends only on the ids and numbers. -/
theorem idOf_eq_of_keys {s s' : Store} (h : s'.keys = s.keys) : s'.idOf = s.idOf := by
  funext number
  rw [idOf_eq_keys, idOf_eq_keys, h]

theorem findByNumber_idOf {s : Store} {number : Bytes} {a : Account}
    (h : s.findByNumber number = .ok a) : s.idOf number = some a.id := by
  unfold findByNumber at h
  split at h
  · rename_i a' hfind
    cases h
    simp [idOf, hfind]
  · cases h

/-- In a list with distinct values of a key, looking a member up by its key finds it. -/
theorem find?_key_of_mem {α β : Type} [BEq β] [LawfulBEq β] {key : α → β} {l : List α} {a : α}
    (hnodup : (l.map key).Nodup) (ha : a ∈ l) : l.find? (key · == key a) = some a := by
  induction l with
  | nil => cases ha
  | cons b rest ih =>
    rw [List.map_cons, List.nodup_cons] at hnodup
    rcases List.mem_cons.mp ha with rfl | hrest
    · simp
    · have hne : key b ≠ key a := fun h => hnodup.1 (List.mem_map.mpr ⟨a, hrest, h.symm⟩)
      simp [hne, ih hnodup.2 hrest]

/-- In a list of records with distinct ids, looking a stored record up by its id finds it. -/
theorem find?_id_of_mem {rs : List Transaction} {q : Transaction}
    (hnodup : (rs.map (·.id)).Nodup) (hq : q ∈ rs) : rs.find? (·.id == q.id) = some q :=
  find?_key_of_mem hnodup hq

/-- Setting a balance keeps every account's id and number, when ids are distinct. -/
theorem updateBalance_keys {s s' : Store} {id version : Int} {balance : Decimal}
    {now changed : Instant} {v : Int} (hnodup : (s.accounts.map (·.id)).Nodup)
    (h : s.updateBalance id version balance now = .ok (s', v, changed)) : s'.keys = s.keys := by
  obtain ⟨a, hfind, -, -, rfl⟩ := updateBalance_eq_ok h
  have ha : a ∈ s.accounts := List.mem_of_find?_eq_some hfind
  have haid : a.id = id := by simpa using List.find?_some hfind
  unfold keys
  rw [List.map_map]
  refine List.map_congr_left fun b hb => ?_
  by_cases hbid : b.id = id
  · -- the account updated is the one found, since ids are distinct
    have hab : a = b := List.inj_on_of_nodup_map hnodup ha hb (haid.trans hbid.symm)
    subst hab
    simp [balanceUpdated, hbid]
  · simp [hbid]

/-- Setting a balance keeps the account ids, when they are distinct. -/
theorem updateBalance_ids {s s' : Store} {id version : Int} {balance : Decimal}
    {now changed : Instant} {v : Int} (hnodup : (s.accounts.map (·.id)).Nodup)
    (h : s.updateBalance id version balance now = .ok (s', v, changed)) :
    s'.accounts.map (·.id) = s.accounts.map (·.id) := by
  have hkeys := congrArg (List.map Prod.fst) (updateBalance_keys hnodup h)
  simpa only [keys, List.map_map, Function.comp_def] using hkeys

theorem updateBalance_records {s s' : Store} {id version : Int} {balance : Decimal}
    {now changed : Instant} {v : Int}
    (h : s.updateBalance id version balance now = .ok (s', v, changed)) : s'.records = s.records := by
  obtain ⟨a, -, -, -, rfl⟩ := updateBalance_eq_ok h
  rfl

theorem createRecord_accounts {s s' : Store} {t t' : Transaction} {now : Instant}
    (h : s.createRecord t now = .ok (s', t')) : s'.accounts = s.accounts := by
  obtain ⟨-, -, rfl⟩ := createRecord_eq_ok h
  rfl

theorem updateStatus_accounts {s s' : Store} {id : Uuid} {status : TxnStatus} {version : Int}
    {now changed : Instant} {v : Int}
    (h : s.updateStatus id status version now = .ok (s', v, changed)) :
    s'.accounts = s.accounts := by
  obtain ⟨t, -, -, -, rfl⟩ := updateStatus_eq_ok h
  rfl

/-- A status update keeps the ids of the records. -/
theorem updateStatus_ids {s s' : Store} {id : Uuid} {status : TxnStatus} {version : Int}
    {now changed : Instant} {v : Int}
    (h : s.updateStatus id status version now = .ok (s', v, changed)) :
    s'.records.map (·.id) = s.records.map (·.id) := by
  obtain ⟨t, hfind, -, -, rfl⟩ := updateStatus_eq_ok h
  have htid : t.id = id := by simpa using List.find?_some hfind
  simp only [List.map_map]
  refine List.map_congr_left fun r hr => ?_
  by_cases hrid : r.id = id
  · simp [hrid, statusUpdated, htid]
  · simp [hrid]

/-- A status update leaves every record with another id in place. -/
theorem mem_updateStatus_of_ne {s s' : Store} {id : Uuid} {status : TxnStatus} {version : Int}
    {now changed : Instant} {v : Int} {q : Transaction}
    (h : s.updateStatus id status version now = .ok (s', v, changed)) (hq : q ∈ s.records)
    (hne : q.id ≠ id) : q ∈ s'.records := by
  obtain ⟨t, -, -, -, rfl⟩ := updateStatus_eq_ok h
  exact List.mem_map.mpr ⟨q, hq, by simp [hne]⟩

/-- Storing a record keeps the ids distinct: the new id is fresh. -/
theorem createRecord_nodup {s s' : Store} {t t' : Transaction} {now : Instant}
    (hnodup : (s.records.map (·.id)).Nodup) (h : s.createRecord t now = .ok (s', t')) :
    (s'.records.map (·.id)).Nodup := by
  obtain ⟨hfresh, rfl, rfl⟩ := createRecord_eq_ok h
  rw [List.map_append, List.nodup_append]
  refine ⟨hnodup, by simp, ?_⟩
  intro x hx y hy
  obtain ⟨q, hq, rfl⟩ := List.mem_map.mp hx
  simp only [List.map_cons, List.map_nil, List.mem_singleton] at hy
  subst hy
  exact hfresh q hq

/-! ## What counting by window reads -/

/-- The account and the stamp of every record, in order: all that counting by window
reads. -/
def stamps (s : Store) : List (Int × Instant) := s.records.map fun q => (q.accountId, q.timestamp)

theorem countSince_eq_stamps (s : Store) (x : Int) (since : Instant) :
    s.countSince x since = (s.stamps.filter fun p => p.1 == x && decide (since ≤ p.2)).length := by
  simp only [countSince, stamps, List.filter_map, List.length_map]
  rfl

/-- A status update keeps every record's account and stamp, when record ids are distinct. -/
theorem updateStatus_stamps {s s' : Store} {id : Uuid} {status : TxnStatus} {version : Int}
    {now changed : Instant} {v : Int} (hnodup : (s.records.map (·.id)).Nodup)
    (h : s.updateStatus id status version now = .ok (s', v, changed)) : s'.stamps = s.stamps := by
  obtain ⟨t, hfind, -, -, rfl⟩ := updateStatus_eq_ok h
  have ht : t ∈ s.records := List.mem_of_find?_eq_some hfind
  have htid : t.id = id := by simpa using List.find?_some hfind
  simp only [stamps, List.map_map]
  refine List.map_congr_left fun r hr => ?_
  by_cases hrid : r.id = id
  · -- the record updated is the one found, and its account and stamp stay
    have htr : t = r := List.inj_on_of_nodup_map hnodup ht hr (htid.trans hrid.symm)
    subst htr
    simp [hrid, statusUpdated]
  · simp [hrid]

/-- Stores whose accounts were all opened by `createAccount`, holding no records. -/
inductive Opened : Store → Prop
  | empty : Opened {}
  | create {s s' : Store} {a b : Account} {now : Instant} :
      Opened s → s.createAccount a now = .ok (s', b) → Opened s'

/-- What opening accounts one by one guarantees: no records, version 0 everywhere, and
distinct ids, all at most the last id handed out. -/
theorem Opened.facts {s : Store} (h : Opened s) :
    s.records = [] ∧ (∀ a ∈ s.accounts, a.version = 0 ∧ a.id ≤ s.lastId) ∧
      (s.accounts.map (·.id)).Nodup := by
  induction h with
  | empty => simp
  | @create s s' a b now _ hcreate ih =>
    obtain ⟨hrecords, hbound, hnodup⟩ := ih
    unfold createAccount at hcreate
    split at hcreate
    · cases hcreate
    · simp only [Except.ok.injEq, Prod.mk.injEq] at hcreate
      obtain ⟨rfl, -⟩ := hcreate
      refine ⟨hrecords, ?_, ?_⟩
      · intro x hx
        simp only [List.mem_append, List.mem_singleton] at hx
        rcases hx with hx | rfl
        · have := hbound x hx
          exact ⟨this.1, by simp only; omega⟩
        · simp
      · rw [List.map_append, List.nodup_append]
        refine ⟨hnodup, by simp, ?_⟩
        intro x hx y hy
        simp only [List.map_cons, List.map_nil, List.mem_singleton] at hy
        obtain ⟨c, hc, rfl⟩ := List.mem_map.mp hx
        have := (hbound c hc).2
        omega

end Ledger.Store
