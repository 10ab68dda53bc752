import Mathlib
import Ledger.Proofs.AccountIndex
import Ledger.Proofs.ReportOnce
import Ledger.Proofs.RunAlone
/-!
# The store's queries against their reference definitions

Counting, listing by account and listing by status of the in-memory store, said without
their code: which records each gives, in which order, and cut where; and what an account
statement answers (`queries_match_reference`).
-/

namespace Ledger.Store

/-! ## What filling in the account number keeps -/

@[simp]
theorem withNumber_accountId (s : Store) (t : Transaction) :
    (s.withNumber t).accountId = t.accountId := by
  unfold withNumber
  split <;> rfl

@[simp]
theorem withNumber_timestamp (s : Store) (t : Transaction) :
    (s.withNumber t).timestamp = t.timestamp := by
  unfold withNumber
  split <;> rfl

@[simp]
theorem withNumber_status (s : Store) (t : Transaction) : (s.withNumber t).status = t.status := by
  unfold withNumber
  split <;> rfl

/-- With distinct account ids, a record of an existing account carries that account's number. -/
theorem withNumber_number {s : Store} (hids : (s.accounts.map (·.id)).Nodup) (t : Transaction)
    {a : Account} (ha : a ∈ s.accounts) (hid : a.id = t.accountId) :
    (s.withNumber t).accountNumber = a.number := by
  have hfind : s.accounts.find? (·.id == t.accountId) = some a := by
    rw [← hid]
    exact find?_key_of_mem hids ha
  simp [withNumber, hfind]

/-! ## The two orders -/

theorem newerFirst_iff (a b : Transaction) :
    newerFirst a b = true ↔
      b.timestamp.ns < a.timestamp.ns ∨
        (a.timestamp.ns = b.timestamp.ns ∧ a.id.value ≤ b.id.value) := by
  simp [newerFirst]

theorem olderChangeFirst_iff (a b : Transaction) :
    olderChangeFirst a b = true ↔
      a.lastModifiedAt.ns < b.lastModifiedAt.ns ∨
        (a.lastModifiedAt.ns = b.lastModifiedAt.ns ∧ a.id.value ≤ b.id.value) := by
  simp [olderChangeFirst]

/-- Records sorted newest first are in non-increasing time. -/
theorem newerFirst_sorted (l : List Transaction) :
    (l.mergeSort newerFirst).Pairwise fun x y => y.timestamp ≤ x.timestamp := by
  have hsorted := @List.pairwise_mergeSort _ newerFirst
    (fun a b c hab hbc => by rw [newerFirst_iff] at *; omega)
    (fun a b => by
      rw [Bool.or_eq_true, newerFirst_iff, newerFirst_iff]
      omega) l
  refine hsorted.imp fun {x y} h => ?_
  rw [newerFirst_iff] at h
  show y.timestamp.ns ≤ x.timestamp.ns
  omega

/-- Records sorted oldest change first are in non-decreasing change time. -/
theorem olderChangeFirst_sorted (l : List Transaction) :
    (l.mergeSort olderChangeFirst).Pairwise fun x y => x.lastModifiedAt ≤ y.lastModifiedAt := by
  have hsorted := @List.pairwise_mergeSort _ olderChangeFirst
    (fun a b c hab hbc => by rw [olderChangeFirst_iff] at *; omega)
    (fun a b => by
      rw [Bool.or_eq_true, olderChangeFirst_iff, olderChangeFirst_iff]
      omega) l
  refine hsorted.imp fun {x y} h => ?_
  rw [olderChangeFirst_iff] at h
  show x.lastModifiedAt.ns ≤ y.lastModifiedAt.ns
  omega

/-! ## Listing by account -/

/-- The records of an account, with the account's number filled in, in stored order. -/
def ofAccount (s : Store) (a : Int) : List Transaction :=
  (s.records.filter (·.accountId == a)).map s.withNumber

/-- A positive limit keeps the first records of the whole listing. -/
theorem listByAccount_limit (s : Store) (a limit : Int) :
    s.listByAccount a limit =
      if 0 < limit then (s.listByAccount a 0).take limit.toNat else s.listByAccount a 0 := rfl

theorem listByAccount_zero_perm (s : Store) (a : Int) : (s.listByAccount a 0).Perm (s.ofAccount a) :=
  List.mergeSort_perm _ _

theorem listByAccount_zero_sorted (s : Store) (a : Int) :
    (s.listByAccount a 0).Pairwise fun x y => y.timestamp ≤ x.timestamp :=
  newerFirst_sorted _

theorem length_ofAccount (s : Store) (a : Int) :
    (s.ofAccount a).length = s.records.countP (·.accountId = a) := by
  rw [ofAccount, List.length_map, List.countP_eq_length_filter]
  rfl

/-- Listing by account: the records kept and the records left out together are the account's
records, each once; the kept ones are newest first, as many as the limit allows, and none left
out is newer than one kept. -/
theorem listByAccount_spec (s : Store) (a limit : Int) :
    ∃ rest, (s.listByAccount a limit ++ rest).Perm (s.ofAccount a) ∧
      (s.listByAccount a limit).Pairwise (fun x y => y.timestamp ≤ x.timestamp) ∧
      (s.listByAccount a limit).length =
        (if 0 < limit then min limit.toNat (s.records.countP (·.accountId = a))
          else s.records.countP (·.accountId = a)) ∧
      ∀ r ∈ rest, ∀ t ∈ s.listByAccount a limit, r.timestamp ≤ t.timestamp := by
  have hperm := listByAccount_zero_perm s a
  have hsorted := listByAccount_zero_sorted s a
  have hlength : (s.listByAccount a 0).length = s.records.countP (·.accountId = a) := by
    rw [hperm.length_eq, length_ofAccount]
  rw [listByAccount_limit]
  split_ifs with hpos
  · -- the listing is cut after the first `limit` records; the rest are no newer
    refine ⟨(s.listByAccount a 0).drop limit.toNat, by rwa [List.take_append_drop],
      hsorted.sublist (List.take_sublist _ _), by rw [List.length_take, hlength], ?_⟩
    intro r hr t ht
    have hsplit := hsorted
    rw [← List.take_append_drop limit.toNat (s.listByAccount a 0), List.pairwise_append] at hsplit
    exact hsplit.2.2 t ht r hr
  · exact ⟨[], by rwa [List.append_nil], hsorted, hlength, by simp⟩

/-! ## Listing by status -/

/-- The records with a status changed at or after a bound, with their account numbers. -/
def ofStatus (s : Store) (status : TxnStatus) (since : Instant) : List Transaction :=
  (s.records.filter fun t => t.status == status && decide (since ≤ t.lastModifiedAt)).map s.withNumber

/-- Listing by status gives the records with the status changed since the bound, each once,
oldest change first. -/
theorem listByStatus_spec (s : Store) (status : TxnStatus) (since : Instant) :
    (s.listByStatus status since).Perm (s.ofStatus status since) ∧
      (s.listByStatus status since).Pairwise (fun x y => x.lastModifiedAt ≤ y.lastModifiedAt) :=
  ⟨List.mergeSort_perm _ _, olderChangeFirst_sorted _⟩

/-! ## Counting -/

theorem countSince_eq_countP (s : Store) (a : Int) (since : Instant) :
    s.countSince a since = s.records.countP fun t => t.accountId = a ∧ since ≤ t.timestamp := by
  rw [countSince, List.countP_eq_length_filter]
  exact congrArg List.length (List.filter_congr fun t _ => by rw [Bool.decide_and]; rfl)

/-! ## Account numbers of the records listed -/

/-- A record listed from the store is a stored record with its account number filled in. -/
theorem number_of_mem_withNumber {s : Store} (hids : (s.accounts.map (·.id)).Nodup)
    {l : List Transaction} {t : Transaction} (ht : t ∈ l.map s.withNumber) :
    ∀ a ∈ s.accounts, a.id = t.accountId → t.accountNumber = a.number := by
  obtain ⟨r, -, rfl⟩ := List.mem_map.mp ht
  intro a ha hid
  exact withNumber_number hids r ha (by simpa using hid)

theorem listByAccount_numbers {s : Store} (hids : (s.accounts.map (·.id)).Nodup) (a limit : Int)
    {t : Transaction} (ht : t ∈ s.listByAccount a limit) :
    ∀ acc ∈ s.accounts, acc.id = t.accountId → t.accountNumber = acc.number := by
  have hall : t ∈ s.listByAccount a 0 := by
    rw [listByAccount_limit] at ht
    split_ifs at ht
    · exact List.mem_of_mem_take ht
    · exact ht
  exact number_of_mem_withNumber hids ((listByAccount_zero_perm s a).mem_iff.mp hall)

theorem listByStatus_numbers {s : Store} (hids : (s.accounts.map (·.id)).Nodup)
    (status : TxnStatus) (since : Instant) {t : Transaction}
    (ht : t ∈ s.listByStatus status since) :
    ∀ acc ∈ s.accounts, acc.id = t.accountId → t.accountNumber = acc.number :=
  number_of_mem_withNumber hids ((listByStatus_spec s status since).1.mem_iff.mp ht)

end Ledger.Store

namespace Ledger.Service

open Engine Store Interleaving

/-! ## Account statements -/

/-- The limit a statement is made with: 50 when none is asked for, at most 500. -/
theorem statementLimit_eq (limit : Int) :
    statementLimit limit = if limit ≤ 0 then 50 else if 500 < limit then 500 else limit := by
  unfold statementLimit defaultStatementLimit maxStatementLimit
  split_ifs <;> omega

theorem statementLimit_pos (limit : Int) : 0 < statementLimit limit := by
  rw [statementLimit_eq]
  split_ifs <;> omega

/-- With no fault planned, a statement of an existing account gives the account, the newest
records up to the limit in force, and the time of the clock. -/
theorem accountStatement_found {w : World} (hfaults : w.faults = []) {n : Bytes} {limit : Int}
    {a : Account} (hfind : w.store.findByNumber n = .ok a) :
    ((accountStatement n limit).run.run w).1 =
      .ok ⟨a, (w.store.listByAccount a.id 0).take (statementLimit limit).toNat, w.clock⟩ := by
  have hplan : ∀ op, Ledger.checkFaults op w.faults = ([], none) := fun op => by rw [hfaults]; rfl
  -- the lookup leaves the plan empty, so the world is unchanged for the listing
  have hw : { w with faults := [] } = w := by rw [← hfaults]
  rw [accountStatement, run_bind, findAccount_run (hplan _)]
  simp only [Shared.read, Shared.ofWorld, hfind, hw]
  rw [run_attempt_bind, storeRead_run w (hplan _)]
  simp only [Shared.read, Shared.ofWorld, hw]
  rw [listByAccount_limit w.store a.id, if_pos (statementLimit_pos limit)]
  rfl

/-- With no fault planned, a statement of a number no account has fails as an unknown
account. -/
theorem accountStatement_unknown {w : World} (hfaults : w.faults = []) {n : Bytes} {limit : Int}
    (hnone : ∀ a ∈ w.store.accounts, a.number ≠ n) :
    ((accountStatement n limit).run.run w).1 =
      .error (.classified .accountNotFound
        (Bytes.ofString "Account not found for accountNumber=" ++ n) none) := by
  have hplan : Ledger.checkFaults .findAccount w.faults = ([], none) := by rw [hfaults]; rfl
  have hfind : w.store.findByNumber n = .error (.refused .notFound) :=
    (findByNumber_error_iff w.store n _).mpr ⟨rfl, hnone⟩
  simp only [accountStatement, run_bind, findAccount_run hplan, Shared.read, Shared.ofWorld, hfind]
  rfl

end Ledger.Service

namespace Ledger.Store

open Service

/-! ## The queries of every reachable store -/

/-- The queries of store `s` and the statements the service makes from it, as their reference
definitions say. Statements are made in a world holding `s`, with no fault planned. -/
structure QueriesMatchReference (s : Store) : Prop where
  /-- Counting gives the records of the account stamped at or after the bound. -/
  count : ∀ a since,
    s.countSince a since = s.records.countP fun t => t.accountId = a ∧ since ≤ t.timestamp
  /-- Listing by account gives the account's records, each once, newest first, as many as the
  limit allows, and none left out is newer than one listed. -/
  byAccount : ∀ a limit, ∃ rest, (s.listByAccount a limit ++ rest).Perm (s.ofAccount a) ∧
    (s.listByAccount a limit).Pairwise (fun x y => y.timestamp ≤ x.timestamp) ∧
    (s.listByAccount a limit).length =
      (if 0 < limit then min limit.toNat (s.records.countP (·.accountId = a))
        else s.records.countP (·.accountId = a)) ∧
    ∀ r ∈ rest, ∀ t ∈ s.listByAccount a limit, r.timestamp ≤ t.timestamp
  /-- Listing by status gives exactly the records with the status changed at or after the
  bound, each once, oldest change first. -/
  byStatus : ∀ status since, (s.listByStatus status since).Perm (s.ofStatus status since) ∧
    (s.listByStatus status since).Pairwise (fun x y => x.lastModifiedAt ≤ y.lastModifiedAt)
  /-- A record listed carries the number of its account, when that account exists. -/
  numbers : ∀ t, ((∃ a limit, t ∈ s.listByAccount a limit) ∨
      ∃ status since, t ∈ s.listByStatus status since) →
    ∀ acc ∈ s.accounts, acc.id = t.accountId → t.accountNumber = acc.number
  /-- A statement gives the account numbered `n` with the first records of its listing, 50
  when no limit is asked for and at most 500; it fails as an unknown account when no account
  is numbered `n`. -/
  statement : ∀ w : World, w.store = s → w.faults = [] → ∀ n limit,
    (∀ acc ∈ s.accounts, acc.number = n →
      ((accountStatement n limit).run.run w).1 =
        .ok ⟨acc, (s.listByAccount acc.id 0).take
          (if limit ≤ 0 then 50 else if 500 < limit then 500 else limit).toNat, w.clock⟩) ∧
    ((∀ acc ∈ s.accounts, acc.number ≠ n) →
      ((accountStatement n limit).run.run w).1 =
        .error (.classified .accountNotFound
          (Bytes.ofString "Account not found for accountNumber=" ++ n) none))

/-- Every reachable store answers its queries, and the statements made from it, as the
reference definitions say. -/
theorem queries_match_reference {s : Store} (hs : Reachable s) : QueriesMatchReference s := by
  have hindexed := hs.accountsIndexed
  refine ⟨countSince_eq_countP s, listByAccount_spec s, listByStatus_spec s, ?_, ?_⟩
  · rintro t (⟨a, limit, ht⟩ | ⟨status, since, ht⟩)
    · exact listByAccount_numbers hindexed.ids a limit ht
    · exact listByStatus_numbers hindexed.ids status since ht
  · rintro w rfl hfaults n limit
    refine ⟨fun acc hacc hnumber => ?_, fun hnone => accountStatement_unknown hfaults hnone⟩
    -- numbers are distinct, so the account numbered `n` is the one found
    have hfind := (hindexed.findByNumber_ok_iff n acc).mpr ⟨hacc, hnumber⟩
    rw [accountStatement_found hfaults hfind, statementLimit_eq]

/-- The store after an account is opened and one deposit of 40 is recorded on it. -/
theorem queries_match_reference_after_one_deposit :
    let opened := (Call.createAccount ⟨0, Bytes.ofString "ACC1", Decimal.ofInt 250, Instant.zero,
      Instant.zero, 0⟩).apply {} (Instant.ofMillis 1000)
    let s := (Call.createRecord ⟨Uuid.ofSequence 1, 1, [], .deposit, Decimal.ofInt 40,
      Instant.ofMillis 2000, .completed, 0, Instant.ofMillis 2000⟩).apply opened
      (Instant.ofMillis 2000)
    Reachable s ∧ QueriesMatchReference s :=
  ⟨.call _ _ (.call _ _ .empty), queries_match_reference (.call _ _ (.call _ _ .empty))⟩

end Ledger.Store
