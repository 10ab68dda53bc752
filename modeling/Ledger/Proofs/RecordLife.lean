import Ledger.Proofs.StoreCalls
/-!
# The life of a transaction record

A record is stored once under a fresh id and may then move once, from completed at version 0
to failed at version 1. Every call of the store moves every record by a step of this machine,
`RecordMove` (`record_follows_status_machine`).
-/

namespace Ledger.Store

/-- A record may move from one status to another exactly from completed to failed. -/
@[simp]
theorem canBecome_eq_true_iff (a b : TxnStatus) :
    a.canBecome b = true ↔ a = .completed ∧ b = .failed := by
  cases a <;> cases b <;> simp [TxnStatus.canBecome]

theorem recordOf_eq_some {s : Store} {x : Uuid} {r : Transaction} (h : s.recordOf x = some r) :
    r ∈ s.records ∧ r.id = x := by
  unfold recordOf at h
  exact ⟨List.mem_of_find?_eq_some h, by simpa using List.find?_some h⟩

theorem recordOf_eq_none {s : Store} {x : Uuid} : s.recordOf x = none ↔ ∀ r ∈ s.records, r.id ≠ x := by
  simp [recordOf, List.find?_eq_none]

/-- In a store with distinct record ids, every stored record is the one found under its id. -/
theorem recordOf_of_mem {s : Store} {r : Transaction} (hdistinct : (s.records.map (·.id)).Nodup)
    (hr : r ∈ s.records) : s.recordOf r.id = some r :=
  find?_id_of_mem hdistinct hr

/-! ## What each changing call does to the record under an id -/

theorem createAccount_records {s s' : Store} {a b : Account} {now : Instant}
    (h : s.createAccount a now = .ok (s', b)) : s'.records = s.records := by
  unfold createAccount at h
  split at h
  · cases h
  · simp only [Except.ok.injEq, Prod.mk.injEq] at h
    obtain ⟨rfl, -⟩ := h
    rfl

/-- Storing a record adds it under its id, which was free, and changes no other. -/
theorem recordOf_createRecord {s s' : Store} {t t' : Transaction} {now : Instant}
    (h : s.createRecord t now = .ok (s', t')) (x : Uuid) :
    s'.recordOf x = if x = t'.id then some t' else s.recordOf x := by
  obtain ⟨hfresh, rfl, rfl⟩ := createRecord_eq_ok h
  have hfree : s.recordOf t.id = none := recordOf_eq_none.mpr hfresh
  simp only [recordOf, List.find?_append]
  by_cases hx : x = t.id
  · subst hx
    simp only [recordOf] at hfree
    simp [hfree]
  · cases hfind : s.records.find? (·.id == x) with
    | some q => simp [hx]
    | none => simp [hx, Ne.symm hx]

/-- A status update rewrites the record found under its id, and no other. -/
theorem recordOf_updateStatus {s s' : Store} {id : Uuid} {status : TxnStatus} {version : Int}
    {now changed : Instant} {v : Int}
    (h : s.updateStatus id status version now = .ok (s', v, changed)) :
    ∃ t, s.recordOf id = some t ∧ t.status = .completed ∧ status = .failed ∧
      t.version = version ∧ ∀ x, s'.recordOf x =
        if x = id then some (statusUpdated t status now) else s.recordOf x := by
  obtain ⟨t, hfind, hmove, hversion, rfl⟩ := updateStatus_eq_ok h
  have htid : t.id = id := by simpa using List.find?_some hfind
  obtain ⟨hcompleted, hfailed⟩ := (canBecome_eq_true_iff _ _).mp hmove
  refine ⟨t, hfind, hcompleted, hfailed, hversion, fun x => ?_⟩
  -- the rewrite keeps every id, so the search for `x` stops at the same record
  have hsearch : ((fun r : Transaction => r.id == x) ∘ fun r =>
      if r.id == id then statusUpdated t status now else r) = fun r => r.id == x := by
    funext r
    by_cases hr : r.id = id
    · simp [hr, statusUpdated, htid]
    · simp [hr]
  simp only [recordOf, List.find?_map, hsearch]
  by_cases hx : x = id
  · subst hx
    simp [hfind, htid]
  · cases hq : s.records.find? (·.id == x) with
    | none => simp [hx]
    | some q =>
      have hqid : q.id = x := by simpa using List.find?_some hq
      simp [hx, hqid]

/-! ## What every call keeps -/

/-- Every call keeps the record ids distinct. -/
theorem Call.apply_distinct {s : Store} (hdistinct : (s.records.map (·.id)).Nodup)
    (now : Instant) (c : Call) : ((c.apply s now).records.map (·.id)).Nodup := by
  rcases Call.apply_cases s now c with hsame | ⟨a, b, h⟩ | ⟨id, version, balance, r, h⟩ |
      ⟨t, t', h⟩ | ⟨id, status, version, ⟨v, changed⟩, h⟩
  · rwa [hsame]
  · rwa [createAccount_records h]
  · rwa [updateBalance_records h]
  · exact createRecord_nodup hdistinct h
  · rwa [updateStatus_ids h]

/-- Every call keeps a failed record as it is. -/
theorem Call.apply_keeps_failed {s : Store} (hdistinct : (s.records.map (·.id)).Nodup)
    (now : Instant) (c : Call) {r : Transaction} (hr : r ∈ s.records)
    (hfailed : r.status = .failed) : r ∈ (c.apply s now).records := by
  rcases Call.apply_cases s now c with hsame | ⟨a, b, h⟩ | ⟨id, version, balance, q, h⟩ |
      ⟨t, t', h⟩ | ⟨id, status, version, ⟨v, changed⟩, h⟩
  · rwa [hsame]
  · rwa [createAccount_records h]
  · rwa [updateBalance_records h]
  · obtain ⟨-, -, hs'⟩ := createRecord_eq_ok h
    rw [hs']
    exact List.mem_append_left _ hr
  · by_cases hrid : r.id = id
    · -- the record updated is completed, so it is not `r`
      obtain ⟨t, hfind, hcompleted, -, -, -⟩ := recordOf_updateStatus h
      have hsame : s.recordOf id = some r := hrid ▸ recordOf_of_mem hdistinct hr
      rw [hsame] at hfind
      cases hfind
      simp [hfailed] at hcompleted
    · exact mem_updateStatus_of_ne h hr hrid

/-! ## The machine -/

/-- One step of a record's life, seen through its id: nothing is stored there; a record is
stored at version 0, changed when it happened; the record stays as it is; or a completed
record at version 0, unchanged since it was stored, becomes failed at version 1, changed at
`now`, with its id, account, type, amount and timestamp as they were. -/
inductive RecordMove (now : Instant) : Option Transaction → Option Transaction → Prop
  | absent : RecordMove now none none
  | stored {r : Transaction} (hversion : r.version = 0) (hchanged : r.lastModifiedAt = r.timestamp) :
      RecordMove now none (some r)
  | kept {r : Transaction} : RecordMove now (some r) (some r)
  | failed {r : Transaction} (hstatus : r.status = .completed) (hversion : r.version = 0)
      (hchanged : r.lastModifiedAt = r.timestamp) :
      RecordMove now (some r) (some { r with status := .failed, version := 1, lastModifiedAt := now })

/-- A failed record never moves again. -/
theorem RecordMove.of_failed {now : Instant} {r : Transaction} {o : Option Transaction}
    (h : RecordMove now (some r) o) (hfailed : r.status = .failed) : o = some r := by
  cases h with
  | kept => rfl
  | failed hstatus => simp [hstatus] at hfailed

/-- A call that leaves a record's id alone is a step of the machine there. -/
theorem RecordMove.stay (now : Instant) : ∀ o : Option Transaction, RecordMove now o o
  | none => .absent
  | some _ => .kept

/-- A stored record keeps its id, account, type, amount and timestamp. -/
theorem RecordMove.keeps {now : Instant} {r r' : Transaction} (h : RecordMove now (some r) (some r')) :
    r'.id = r.id ∧ r'.accountId = r.accountId ∧ r'.type = r.type ∧ r'.amount = r.amount ∧
      r'.timestamp = r.timestamp := by
  cases h <;> simp

/-- What holds of the records of every reachable store: their ids are distinct, and each is
as it was stored (version 0, changed when it happened) or failed at version 1. -/
structure RecordsSound (s : Store) : Prop where
  distinct : (s.records.map (·.id)).Nodup
  shape : ∀ r ∈ s.records,
    (r.version = 0 ∧ r.lastModifiedAt = r.timestamp) ∨ (r.version = 1 ∧ r.status = .failed)

/-- A completed record of a sound store is still as it was stored. -/
theorem RecordsSound.of_completed {s : Store} (hs : RecordsSound s) {r : Transaction}
    (hr : r ∈ s.records) (hcompleted : r.status = .completed) :
    r.version = 0 ∧ r.lastModifiedAt = r.timestamp := by
  rcases hs.shape r hr with hstored | ⟨-, hfailed⟩
  · exact hstored
  · simp [hcompleted] at hfailed

theorem RecordsSound.empty : RecordsSound {} := ⟨by simp, by simp⟩

theorem RecordsSound.of_records_eq {s s' : Store} (hs : RecordsSound s)
    (h : s'.records = s.records) : RecordsSound s' :=
  ⟨h ▸ hs.distinct, h ▸ hs.shape⟩

theorem RecordsSound.apply {s : Store} (hs : RecordsSound s) (now : Instant) (c : Call) :
    RecordsSound (c.apply s now) := by
  rcases Call.apply_cases s now c with hsame | ⟨a, b, h⟩ | ⟨id, version, balance, r, h⟩ |
      ⟨t, t', h⟩ | ⟨id, status, version, ⟨v, changed⟩, h⟩
  · rwa [hsame]
  · exact hs.of_records_eq (createAccount_records h)
  · exact hs.of_records_eq (updateBalance_records h)
  · obtain ⟨-, ht', hs'⟩ := createRecord_eq_ok h
    refine ⟨createRecord_nodup hs.distinct h, ?_⟩
    rw [hs']
    intro r hr
    rcases List.mem_append.mp hr with hr | hr
    · exact hs.shape r hr
    · simp only [List.mem_singleton] at hr
      subst hr
      simp [ht']
  · obtain ⟨t, hfind, hmove, hversion, hs'⟩ := updateStatus_eq_ok h
    have ht : t ∈ s.records := List.mem_of_find?_eq_some hfind
    obtain ⟨hcompleted, rfl⟩ := (canBecome_eq_true_iff _ _).mp hmove
    have hstored := hs.of_completed ht hcompleted
    refine ⟨updateStatus_ids h ▸ hs.distinct, ?_⟩
    rw [hs']
    intro r hr
    obtain ⟨q, hq, rfl⟩ := List.mem_map.mp hr
    by_cases hqid : q.id = id
    · -- the record rewritten is the completed one found, at version 0
      simp [hqid, statusUpdated, hstored.1]
    · simpa [hqid] using hs.shape q hq

theorem Reachable.recordsSound {s : Store} (h : Reachable s) : RecordsSound s := by
  induction h with
  | empty => exact .empty
  | call now c _ ih => exact ih.apply now c

/-- Every call moves the record under every id by one step of the machine. -/
theorem RecordsSound.move {s : Store} (hs : RecordsSound s) (now : Instant) (c : Call) (x : Uuid) :
    RecordMove now (s.recordOf x) ((c.apply s now).recordOf x) := by
  rcases Call.apply_cases s now c with hsame | ⟨a, b, h⟩ | ⟨id, version, balance, r, h⟩ |
      ⟨t, t', h⟩ | ⟨id, status, version, ⟨v, changed⟩, h⟩
  · rw [hsame]
    exact .stay now _
  · simp only [recordOf, createAccount_records h]
    exact .stay now _
  · simp only [recordOf, updateBalance_records h]
    exact .stay now _
  · rw [recordOf_createRecord h x]
    by_cases hx : x = t'.id
    · subst hx
      obtain ⟨hfresh, ht', -⟩ := createRecord_eq_ok h
      have hfree : s.recordOf t'.id = none := by
        rw [recordOf_eq_none, ht']
        exact hfresh
      rw [hfree, if_pos rfl]
      exact .stored (by simp [ht']) (by simp [ht'])
    · rw [if_neg hx]
      exact .stay now _
  · obtain ⟨t, hfind, hcompleted, rfl, rfl, hafter⟩ := recordOf_updateStatus h
    rw [hafter x]
    by_cases hx : x = id
    · subst hx
      obtain ⟨hversion, hchanged⟩ := hs.of_completed (recordOf_eq_some hfind).1 hcompleted
      rw [hfind, if_pos rfl]
      have hmoved : statusUpdated t .failed now =
          { t with status := .failed, version := 1, lastModifiedAt := now } := by
        simp [statusUpdated, hversion]
      rw [hmoved]
      exact .failed hcompleted hversion hchanged
    · rw [if_neg hx]
      exact .stay now _

/-! ## Status updates -/

theorem updateStatus_ok_iff (s : Store) (id : Uuid) (status : TxnStatus) (version : Int)
    (now : Instant) :
    (∃ r, s.updateStatus id status version now = .ok r) ↔
      ∃ t, s.recordOf id = some t ∧ t.status = .completed ∧ status = .failed ∧
        t.version = version := by
  constructor
  · rintro ⟨⟨s', v, changed⟩, h⟩
    obtain ⟨t, hfind, hcompleted, hfailed, hversion, -⟩ := recordOf_updateStatus h
    exact ⟨t, hfind, hcompleted, hfailed, hversion⟩
  · rintro ⟨t, hfind, hcompleted, rfl, rfl⟩
    unfold recordOf at hfind
    simp [updateStatus, hfind, hcompleted, TxnStatus.canBecome]

/-- Why a status update is refused, checked in this order: no record under the id, a move the
record's status does not allow, a version other than the stored one. -/
inductive StatusRefusal (s : Store) (id : Uuid) (status : TxnStatus) (version : Int) :
    Failure → Prop
  | missing (h : s.recordOf id = none) : StatusRefusal s id status version (.refused .notFound)
  | notAllowed {t : Transaction} (hfind : s.recordOf id = some t)
      (h : t.status.canBecome status = false) :
      StatusRefusal s id status version (.refused .invalidTransition)
  | stale {t : Transaction} (hfind : s.recordOf id = some t)
      (hmove : t.status.canBecome status = true) (h : t.version ≠ version) :
      StatusRefusal s id status version (.refused .versionConflict)

theorem updateStatus_error_iff (s : Store) (id : Uuid) (status : TxnStatus) (version : Int)
    (now : Instant) (f : Failure) :
    s.updateStatus id status version now = .error f ↔ StatusRefusal s id status version f := by
  constructor
  · intro h
    cases hfind : s.recordOf id with
    | none =>
      unfold recordOf at hfind
      simp only [updateStatus, hfind, Except.error.injEq] at h
      subst h
      exact .missing hfind
    | some t =>
      have hfind' := hfind
      unfold recordOf at hfind'
      by_cases hmove : t.status.canBecome status = true
      · by_cases hversion : t.version = version
        · simp [updateStatus, hfind', hmove, hversion] at h
        · simp only [updateStatus, hfind', hmove, hversion, Bool.not_true, bne_iff_ne, ne_eq,
            not_false_eq_true, if_true, Bool.false_eq_true, if_false, Except.error.injEq] at h
          subst h
          exact .stale hfind hmove hversion
      · simp only [Bool.not_eq_true] at hmove
        simp only [updateStatus, hfind', hmove, Bool.not_false, if_true,
          Except.error.injEq] at h
        subst h
        exact .notAllowed hfind hmove
  · intro h
    cases h with
    | missing hnone =>
      unfold recordOf at hnone
      simp [updateStatus, hnone]
    | notAllowed hfind hmove =>
      unfold recordOf at hfind
      simp [updateStatus, hfind, hmove]
    | stale hfind hmove hversion =>
      unfold recordOf at hfind
      simp [updateStatus, hfind, hmove, hversion]

/-- In every reachable store, every call moves every record by a step of `RecordMove`, and a
status update succeeds exactly on a completed record at the version named. -/
theorem record_follows_status_machine {s : Store} (hs : Reachable s) (now : Instant) :
    (∀ r ∈ s.records, s.recordOf r.id = some r) ∧
    (∀ (c : Call) x, RecordMove now (s.recordOf x) ((c.apply s now).recordOf x)) ∧
    (∀ t, s.recordOf t.id ≠ none → (Call.createRecord t).apply s now = s) ∧
    (∀ id status version, (∃ r, s.updateStatus id status version now = .ok r) ↔
      ∃ t, s.recordOf id = some t ∧ t.status = .completed ∧ status = .failed ∧
        t.version = version) ∧
    (∀ id status version f, s.updateStatus id status version now = .error f ↔
      StatusRefusal s id status version f) ∧
    (∀ id status version f, s.updateStatus id status version now = .error f →
      (Call.updateStatus id status version).apply s now = s) := by
  have hsound := hs.recordsSound
  refine ⟨fun r hr => recordOf_of_mem hsound.distinct hr, hsound.move now,
    fun t hused => ?_, fun id status version => updateStatus_ok_iff s id status version now,
    fun id status version => updateStatus_error_iff s id status version now,
    fun id status version f h => by simp [Call.apply, h]⟩
  -- an insertion under a used id is refused
  obtain ⟨q, hq⟩ := Option.ne_none_iff_exists'.mp hused
  obtain ⟨hqmem, hqid⟩ := recordOf_eq_some hq
  have hdup : s.records.any (·.id == t.id) = true := List.any_eq_true.mpr ⟨q, hqmem, by simp [hqid]⟩
  simp [Call.apply, createRecord, hdup]

/-- The store after one completed deposit of 5 is stored. -/
theorem record_follows_status_machine_after_one_deposit :
    let s := (Call.createRecord ⟨Uuid.ofSequence 1, 1, [], .deposit, Decimal.ofInt 5,
      Instant.zero, .completed, 0, Instant.zero⟩).apply {} (Instant.ofMillis 1000)
    let now := Instant.ofMillis 2000
    Reachable s ∧ ((∀ r ∈ s.records, s.recordOf r.id = some r) ∧
    (∀ (c : Call) x, RecordMove now (s.recordOf x) ((c.apply s now).recordOf x)) ∧
    (∀ t, s.recordOf t.id ≠ none → (Call.createRecord t).apply s now = s) ∧
    (∀ id status version, (∃ r, s.updateStatus id status version now = .ok r) ↔
      ∃ t, s.recordOf id = some t ∧ t.status = .completed ∧ status = .failed ∧
        t.version = version) ∧
    (∀ id status version f, s.updateStatus id status version now = .error f ↔
      StatusRefusal s id status version f) ∧
    (∀ id status version f, s.updateStatus id status version now = .error f →
      (Call.updateStatus id status version).apply s now = s)) :=
  ⟨.call _ _ .empty, record_follows_status_machine (.call _ _ .empty) _⟩

end Ledger.Store
