import Mathlib
import Ledger.Sql.Connection
import Ledger.Proofs.RecordRows
import Ledger.Proofs.StoreQueries
/-!
# The in-memory store against the relational store

The relational store's compare-and-set updates and its listing, run against a server that
does what PostgreSQL does (`RunsAsPostgres`) on tables of an in-memory store, succeed on the
same calls and leave the same tables as the in-memory store; they refuse missing records
differently, and order records of one time differently.
-/

namespace Ledger

/-! ## Running a call against a server -/

namespace Sql

/-- A call that sends one statement reads the server's reply to it. -/
theorem Server.call_of_sent {σ α : Type} (srv : Server σ) (m : Db α) (s : σ) {st : Statement}
    (h : (m.run { replies := [] }).2.sent = [st]) :
    srv.call m s = ((m.run { replies := [(srv s st).1] }).1, (srv s st).2) := by
  simp [Server.call, h]

/-- A single-row read is answered by the server's reply to its query. -/
theorem Server.call_queryRow {σ α β : Type} (srv : Server σ) (s : σ) (sql : String)
    (args : List SqlValue) (read : RowRead α) (f : Except QueryError α → β) :
    srv.call (do let r ← queryRow sql args read; return f r) s =
      (f ((queryRow sql args read).run { replies := [(srv s ⟨.query, sql, args⟩).1] }).1,
        (srv s ⟨.query, sql, args⟩).2) :=
  Server.call_of_sent srv _ s rfl

end Sql

namespace Relational

open Sql

/-! ## Identifiers as text

The status update binds the record's id as its text, and the database compares texts of
identifiers. A 128-bit identifier is told apart from another by its text. -/

theorem hexDigit_injective : ∀ a b : Fin 16, Bytes.hexDigit a = Bytes.hexDigit b → a = b := by
  decide

theorem hexDigit_ne_dash : ∀ a : Fin 16, Bytes.hexDigit a ≠ '-' := by
  decide

/-- The five groups of the text put back together. -/
theorem groups_join (l : List Char) :
    l.take 8 ++ (l.drop 8).take 4 ++ (l.drop 12).take 4 ++ (l.drop 16).take 4 ++ l.drop 20 = l := by
  have h12 : l.drop 12 = (l.drop 8).drop 4 := by rw [List.drop_drop]
  have h16 : l.drop 16 = (l.drop 12).drop 4 := by rw [List.drop_drop]
  have h20 : l.drop 20 = (l.drop 16).drop 4 := by rw [List.drop_drop]
  simp only [List.append_assoc]
  rw [h20, List.take_append_drop, h16, List.take_append_drop, h12, List.take_append_drop,
    List.take_append_drop]

theorem hexDigits_ne_dash (u : Uuid) : ∀ c ∈ u.hexDigits, (c != '-') = true := by
  intro c hc
  simp only [Uuid.hexDigits, List.mem_map] at hc
  obtain ⟨i, -, rfl⟩ := hc
  simpa using hexDigit_ne_dash ⟨_, Nat.mod_lt _ (by decide : 16 > 0)⟩

/-- The text of an identifier without its dashes is its 32 hex digits. -/
theorem toText_undashed (u : Uuid) : u.toText.toList.filter (· != '-') = u.hexDigits := by
  have hdash : ("-" : String).toList.filter (· != '-') = [] := rfl
  -- the dashes drop out, and the groups left join back into the digits
  simp only [Uuid.toText, String.toList_append, String.toList_ofList, List.filter_append, hdash,
    List.append_nil]
  simp only [← List.filter_append, groups_join]
  exact List.filter_eq_self.mpr (hexDigits_ne_dash u)

/-- Numbers with the same lowest `n` hex digits agree below `16 ^ n`. -/
theorem mod_pow_eq_of_digits {a b : Nat} :
    ∀ n, (∀ i < n, a / 16 ^ i % 16 = b / 16 ^ i % 16) → a % 16 ^ n = b % 16 ^ n
  | 0, _ => by rw [pow_zero, Nat.mod_one, Nat.mod_one]
  | n + 1, h => by
    rw [Nat.mod_pow_succ, Nat.mod_pow_succ, mod_pow_eq_of_digits n fun i hi => h i (by omega),
      h n (by omega)]

/-- A 128-bit identifier is the only one of its text. -/
theorem toText_inj {u w : Uuid} (hu : u.value < Nat.pow 2 128) (hw : w.value < Nat.pow 2 128) :
    u.toText = w.toText ↔ u = w := by
  refine ⟨fun h => ?_, fun h => h ▸ rfl⟩
  have hdigits : u.hexDigits = w.hexDigits := by rw [← toText_undashed, h, toText_undashed]
  simp only [Uuid.hexDigits, List.map_inj_left, List.mem_reverse, List.mem_range] at hdigits
  have hsame : ∀ i < 32, u.value / 16 ^ i % 16 = w.value / 16 ^ i % 16 := fun i hi => by
    have h := hexDigit_injective ⟨_, Nat.mod_lt _ (by decide : 16 > 0)⟩
      ⟨_, Nat.mod_lt _ (by decide : 16 > 0)⟩ (hdigits i hi)
    simpa [Nat.pow_eq] using h
  have hpow : Nat.pow 2 128 = 16 ^ 32 := by decide
  have hmod := mod_pow_eq_of_digits 32 hsame
  rw [hpow] at hu hw
  rw [Nat.mod_eq_of_lt hu, Nat.mod_eq_of_lt hw] at hmod
  cases u
  cases w
  simpa using hmod

/-! ## Lists with a key -/

section Keyed

variable {α β : Type} [BEq β] [LawfulBEq β] {key : α → β} {k : β} {l : List α}

/-- With distinct keys, a member with the key of the one found by it is that one. -/
theorem eq_of_find?_key (hl : (l.map key).Nodup) {b a : α} (hfind : l.find? (key · == k) = some b)
    (ha : a ∈ l) (hk : key a = k) : a = b := by
  have h := Store.find?_key_of_mem hl ha
  rw [hk, hfind] at h
  exact (Option.some.inj h).symm

/-- With distinct keys, the members of key `k` that pass `q` are the one member of key `k`, if
it passes. -/
theorem filter_keyed (hl : (l.map key).Nodup) (q : α → Bool) :
    l.filter (fun a => key a == k && q a) = ((l.find? (key · == k)).filter q).toList := by
  induction l with
  | nil => rfl
  | cons a l ih =>
    rw [List.map_cons, List.nodup_cons] at hl
    by_cases ha : key a = k
    · -- no later member has the key
      have hrest : l.filter (fun b => key b == k && q b) = [] := by
        rw [List.filter_eq_nil_iff]
        intro b hb hbk
        simp only [Bool.and_eq_true, beq_iff_eq] at hbk
        exact hl.1 (List.mem_map.mpr ⟨b, hb, hbk.1.trans ha.symm⟩)
      cases hq : q a <;> simp [ha, hq, hrest, Option.filter]
    · simp [ha, ih hl.2]

theorem filter_key (hl : (l.map key).Nodup) :
    l.filter (key · == k) = (l.find? (key · == k)).toList := by
  have h := filter_keyed (k := k) hl fun _ => true
  simp only [Bool.and_true] at h
  rw [h]
  cases l.find? (key · == k) <;> rfl

/-- With distinct keys, rewriting the members of key `k` that pass `q` rewrites the one found,
if it passes, and nothing else. -/
theorem map_keyed (hl : (l.map key).Nodup) (q : α → Bool) (g : α → α) {b : α}
    (hfind : l.find? (key · == k) = some b) :
    l.map (fun a => if key a == k && q a then g a else a) =
      if q b then l.map (fun a => if key a == k then g b else a) else l := by
  split_ifs with hq
  · refine List.map_congr_left fun a ha => ?_
    by_cases hk : key a = k
    · obtain rfl := eq_of_find?_key hl hfind ha hk
      simp [hk, hq]
    · simp [hk]
  · conv_rhs => rw [← List.map_id l]
    refine List.map_congr_left fun a ha => ?_
    by_cases hk : key a = k
    · obtain rfl := eq_of_find?_key hl hfind ha hk
      simp [hq]
    · simp [hk]

theorem map_keyed_none (q : α → Bool) (g : α → α) (hfind : l.find? (key · == k) = none) :
    l.map (fun a => if key a == k && q a then g a else a) = l := by
  conv_rhs => rw [← List.map_id l]
  refine List.map_congr_left fun a ha => ?_
  have hk := List.find?_eq_none.mp hfind a ha
  simp only [beq_iff_eq] at hk
  simp [hk]

end Keyed

/-! ## What PostgreSQL does with the store's statements -/

/-- A result of rows, with their count as the count of the command. -/
def rowsReply (columns : List String) (rows : List (List SqlValue)) : Reply :=
  .result ⟨columns, rows, none⟩ rows.length

/-- The columns a guarded update returns: the new version and the time of the change. -/
def changeColumns : List String := ["version", "last_modified_at"]

/-- The row a guarded update returns for a row it moved on from version `v`, at `now`. -/
def changeRow (now : Instant) (v : Int) : List SqlValue := [.int (v + 1), .time now 0]

/-- Whether an account row satisfies `WHERE account_id = $2 AND version = $3`. -/
def balanceRowSelected (id v : Int) (a : Account) : Bool := a.id == id && a.version == v

/-- The balance update run on the accounts of `T` at `now`, with `d` the balance bound: a row
for each account selected, each of them set to `d` at the next version, changed `now`. -/
def balanceUpdateAnswer (now : Instant) (T : Store) (d : Decimal) (id v : Int) : Reply × Store :=
  (rowsReply changeColumns
      ((T.accounts.filter (balanceRowSelected id v)).map fun a => changeRow now a.version),
    { T with accounts := T.accounts.map fun a =>
        if balanceRowSelected id v a then Store.balanceUpdated a d now else a })

/-- Whether a record row satisfies `WHERE transaction_id = $2 AND version = $3 AND status = $4`,
its id and status compared by their texts with the texts bound. -/
def statusRowSelected (x : String) (v : Int) (c : String) (r : Transaction) : Bool :=
  r.id.toText == x && (r.version == v && r.status.text == c)

/-- The status update run on the records of `T` at `now`, with the status `s`, the id `x`, the
version `v` and the status `c` bound: a row for each record selected, each of them set to the
status `s` at the next version, changed `now`. -/
def statusUpdateAnswer (now : Instant) (T : Store) (s x : String) (v : Int) (c : String) :
    Reply × Store :=
  (rowsReply changeColumns
      ((T.records.filter (statusRowSelected x v c)).map fun r => changeRow now r.version),
    { T with records := T.records.map fun r =>
        if statusRowSelected x v c r then Store.statusUpdated r (TxnStatus.ofText s) now else r })

/-- The rows of `txn.transactions t JOIN txn.accounts a ON a.account_id = t.account_id` with
`t.account_id = x`: each record of the account, once for each account of its id, with that
account's number. -/
def joinedRecords (T : Store) (x : Int) : List Transaction :=
  (T.records.filter (·.accountId == x)).flatMap fun r =>
    (T.accounts.filter (·.id == r.accountId)).map fun a => { r with accountNumber := a.number }

/-- Newest first: no record is newer than one before it. -/
def NewestFirst (l : List Transaction) : Prop :=
  l.Pairwise fun a b => b.timestamp ≤ a.timestamp

/-- The lists that `ORDER BY timestamp DESC LIMIT n` may give from `rows`: the first `n` of the
rows put newest first, records of the same time in any order. -/
def NewestCut (rows : List Transaction) (n : Nat) (l : List Transaction) : Prop :=
  ∃ L, L.Perm rows ∧ NewestFirst L ∧ l = L.take n

/-- What PostgreSQL does with the store's two guarded updates and its listing by account, on
tables of a store's accounts and records, when its `CURRENT_TIMESTAMP` is `now`. -/
structure RunsAsPostgres (srv : Server Store) (now : Instant) : Prop where
  balance : ∀ T x id v d, Decimal.parse x = .ok d →
    srv T ⟨.query, balanceUpdateSql, [.text x, .int id, .int v]⟩ =
      balanceUpdateAnswer now T d id v
  status : ∀ T s x v c,
    srv T ⟨.query, statusUpdateSql, [.text s, .text x, .int v, .text c]⟩ =
      statusUpdateAnswer now T s x v c
  listing : ∀ T x n, 0 < n → ∃ L, L.Perm (joinedRecords T x) ∧ NewestFirst L ∧
    srv T ⟨.query, accountRecordsSql, [.int x, .int n]⟩ =
      (rowsReply recordColumnNames ((L.take n.toNat).map recordRow), T)

/-- Tables the schema allows: account ids and record ids are primary keys, and a row carries
every record. -/
structure Tabular (T : Store) : Prop where
  accountIds : (T.accounts.map (·.id)).Nodup
  recordIds : (T.records.map (·.id)).Nodup
  storable : ∀ r ∈ T.records, Storable r

/-! ## A guarded update is a compare-and-set -/

/-- What a guarded update answers when it does what an in-memory compare-and-set does: the new
version and change time in one row and the store after it, or no row and the store as it was. -/
def casReply (T : Store) : Except Failure (Store × Int × Instant) → Reply × Store
  | .ok (T', v, t) => (rowsReply changeColumns [[.int v, .time t 0]], T')
  | .error _ => (rowsReply changeColumns [], T)

/-- On accounts with distinct ids, the balance update is the in-memory compare-and-set. -/
theorem balanceUpdateAnswer_eq {T : Store} (hids : (T.accounts.map (·.id)).Nodup) (now : Instant)
    (d : Decimal) (id v : Int) :
    balanceUpdateAnswer now T d id v = casReply T (T.updateBalance id v d now) := by
  unfold balanceUpdateAnswer balanceRowSelected
  rw [filter_keyed hids]
  cases hfind : T.accounts.find? (·.id == id) with
  | none =>
    rw [map_keyed_none _ _ hfind]
    simp [Store.updateBalance, hfind, casReply, rowsReply]
  | some a =>
    rw [map_keyed hids _ _ hfind]
    by_cases hv : a.version = v
    · simp [Store.updateBalance, hfind, hv, casReply, rowsReply, changeRow, Option.filter,
        Store.balanceUpdated]
    · simp [Store.updateBalance, hfind, hv, casReply, rowsReply, Option.filter]

/-- A row carries a status by its text, so only a completed record has the completed text. -/
theorem status_text_completed {r : Transaction} (h : Storable r) :
    r.status.text = TxnStatus.completed.text ↔ r.status = .completed := by
  constructor
  · intro hs
    rw [← h.status_text, hs]
    rfl
  · intro hs
    rw [hs]

/-- The in-memory status update refuses whenever its condition of success fails. -/
theorem updateStatus_error_of_not_ok {T : Store} {id : Uuid} {status : TxnStatus} {v : Int}
    (now : Instant)
    (h : ¬∃ t, T.recordOf id = some t ∧ t.status = .completed ∧ status = .failed ∧
      t.version = v) :
    ∃ f, T.updateStatus id status v now = .error f := by
  rcases hmem : T.updateStatus id status v now with f | r
  · exact ⟨f, rfl⟩
  · exact absurd ((Store.updateStatus_ok_iff T id status v now).mp ⟨r, hmem⟩) h

/-- On tables of 128-bit records with distinct ids, marking a record failed by the status update
is the in-memory compare-and-set. -/
theorem statusUpdateAnswer_eq {T : Store} (hT : Tabular T) (now : Instant) {id : Uuid}
    (hid : id.value < Nat.pow 2 128) (v : Int) :
    statusUpdateAnswer now T TxnStatus.failed.text id.toText v TxnStatus.completed.text =
      casReply T (T.updateStatus id .failed v now) := by
  -- the database compares texts; on these records that compares ids and statuses
  have hsel : ∀ r ∈ T.records, statusRowSelected id.toText v TxnStatus.completed.text r =
      (r.id == id && (r.version == v && r.status == .completed)) := by
    intro r hr
    have hs := hT.storable r hr
    rw [Bool.eq_iff_iff]
    simp only [statusRowSelected, Bool.and_eq_true, beq_iff_eq, toText_inj hs.id_lt hid,
      status_text_completed hs]
  unfold statusUpdateAnswer
  rw [List.filter_congr hsel,
    List.map_congr_left (g := fun r => if (r.id == id && (r.version == v && r.status == .completed))
      then Store.statusUpdated r (TxnStatus.ofText TxnStatus.failed.text) now else r)
      fun r hr => by rw [hsel r hr],
    filter_keyed hT.recordIds]
  cases hfind : T.records.find? (·.id == id) with
  | none =>
    rw [map_keyed_none _ _ hfind]
    simp [Store.updateStatus, hfind, casReply, rowsReply]
  | some t =>
    rw [map_keyed hT.recordIds _ _ hfind]
    by_cases hmove : t.status = .completed ∧ t.version = v
    · obtain ⟨hc, hv⟩ := hmove
      simp [Store.updateStatus, hfind, hc, hv, casReply, rowsReply, changeRow, Option.filter,
        TxnStatus.canBecome, Store.statusUpdated, TxnStatus.ofText, TxnStatus.text]
    · -- no row is selected, and the in-memory store refuses
      have hq : (t.version == v && t.status == .completed) = false := by
        simpa [and_comm] using hmove
      obtain ⟨f, hf⟩ : ∃ f, T.updateStatus id .failed v now = .error f := by
        refine updateStatus_error_of_not_ok now ?_
        rintro ⟨t', ht', hc, -, hv⟩
        rw [Store.recordOf, hfind, Option.some.injEq] at ht'
        subst ht'
        exact hmove ⟨hc, hv⟩
      simp [hq, hf, casReply, rowsReply, Option.filter]

/-! ## Reading the replies -/

theorem casReply_snd (T : Store) (r : Except Failure (Store × Int × Instant)) :
    (casReply T r).2 = Store.settle T r := by
  rcases r with f | ⟨T', v, t⟩ <;> rfl

/-- Reading back what a compare-and-set answers gives its version and change time, or a version
conflict. -/
theorem read_casReply (T : Store) (r : Except Failure (Store × Int × Instant)) (sql : String)
    (args : List SqlValue) (what : String) :
    ((queryRow sql args readChange).run { replies := [(casReply T r).1] }).1.mapError
        (rowFailure .versionConflict what) =
      (r.map Prod.snd).mapError fun _ => .refused .versionConflict := by
  rcases r with f | ⟨T', v, t⟩ <;> rfl

/-! ## The three calls against a database -/

section Calls

variable {srv : Server Store} {now : Instant}

/-- The balance update as a database running as PostgreSQL answers it: the in-memory
compare-and-set with the balance its text reads as. -/
theorem call_updateBalance (hpg : RunsAsPostgres srv now) {T : Store}
    (hids : (T.accounts.map (·.id)).Nodup) (id v : Int) {b d : Decimal}
    (hd : Decimal.parse b.toText = .ok d) :
    srv.call (updateBalance id b v) T =
      ((T.updateBalance id v d now).map Prod.snd, Store.settle T (T.updateBalance id v d now)) := by
  rw [updateBalance, Server.call_queryRow, hpg.balance T _ id v d hd, balanceUpdateAnswer_eq hids,
    read_casReply, casReply_snd]
  -- the in-memory compare-and-set refuses only as a version conflict
  rcases hmem : T.updateBalance id v d now with f | r
  · rw [Store.updateBalance_error hmem]
    rfl
  · rfl

theorem updateStatus_failed_eq (id : Uuid) (v : Int) :
    updateStatus id .failed v =
      (do
        let r ← queryRow statusUpdateSql
          [.text TxnStatus.failed.text, .text id.toText, .int v, .text TxnStatus.completed.text]
          readChange
        return r.mapError (rowFailure .versionConflict "update transaction status")) :=
  rfl

/-- The status update as a database running as PostgreSQL answers it: the in-memory
compare-and-set, with every refusal the one the relational store can tell. -/
theorem call_updateStatus (hpg : RunsAsPostgres srv now) {T : Store} (hT : Tabular T) {id : Uuid}
    (hid : id.value < Nat.pow 2 128) (status : TxnStatus) (v : Int) :
    srv.call (updateStatus id status v) T =
      (((T.updateStatus id status v now).map Prod.snd).mapError fun _ =>
          .refused (if status = .failed then .versionConflict else .invalidTransition),
        Store.settle T (T.updateStatus id status v now)) := by
  by_cases hs : status = .failed
  · subst hs
    rw [updateStatus_failed_eq, Server.call_queryRow, hpg.status, statusUpdateAnswer_eq hT now hid,
      read_casReply, casReply_snd, if_pos rfl]
  · -- refused before anything is sent, so the server's state is untouched; the in-memory store
    -- refuses as well
    obtain ⟨f, hf⟩ : ∃ f, T.updateStatus id status v now = .error f := by
      refine updateStatus_error_of_not_ok now ?_
      rintro ⟨-, -, -, hfailed, -⟩
      exact hs hfailed
    rw [hf, if_neg hs]
    cases status with
    | failed => exact absurd rfl hs
    | completed => rfl
    | other s => rfl

/-- With distinct account ids, joining a record of an account that exists fills in that account's
number, as the in-memory store does. -/
theorem joinedRecords_eq_ofAccount {T : Store} (hids : (T.accounts.map (·.id)).Nodup) {x : Int}
    (hfk : ∀ r ∈ T.records, r.accountId = x → ∃ a ∈ T.accounts, a.id = x) :
    joinedRecords T x = T.ofAccount x := by
  unfold joinedRecords Store.ofAccount
  rw [List.map_eq_flatMap]
  refine List.flatMap_congr fun r hr => ?_
  obtain ⟨hrec, hx⟩ := List.mem_filter.mp hr
  simp only [beq_iff_eq] at hx
  obtain ⟨a, ha, hax⟩ := hfk r hrec hx
  -- the account of the record is the one account of its id
  have hfind : T.accounts.find? (·.id == r.accountId) = some a := by
    rw [hx, ← hax]
    exact Store.find?_key_of_mem hids ha
  rw [filter_key hids, hfind]
  simp [Store.withNumber, hfind]

theorem storable_of_mem_joined {T : Store} (hT : Tabular T) {x : Int} {t : Transaction}
    (ht : t ∈ joinedRecords T x) : Storable t := by
  simp only [joinedRecords, List.mem_flatMap, List.mem_filter, List.mem_map] at ht
  obtain ⟨r, ⟨hr, -⟩, a, -, rfl⟩ := ht
  have h := hT.storable r hr
  exact ⟨h.id_lt, h.type_text, h.status_text, h.exp_le, h.exp_ge⟩

/-- The listing as a database running as PostgreSQL answers it: the first rows of the joined
records, newest first. -/
theorem call_listByAccount (hpg : RunsAsPostgres srv now) {T : Store} (hT : Tabular T) (x n : Int)
    (hn : 0 < n) :
    ∃ L, L.Perm (joinedRecords T x) ∧ NewestFirst L ∧
      srv.call (listByAccount x n) T = (.ok (L.take n.toNat), T) := by
  obtain ⟨L, hperm, hsorted, hreply⟩ := hpg.listing T x n hn
  refine ⟨L, hperm, hsorted, ?_⟩
  have hstorable : ∀ t ∈ L.take n.toNat, Storable t := fun t ht =>
    storable_of_mem_joined hT (hperm.subset (List.mem_of_mem_take ht))
  rw [listByAccount, Server.call_of_sent srv _ T rfl, hreply]
  show (readAll ⟨recordColumnNames, (L.take n.toNat).map recordRow, none⟩, T) = _
  rw [readAll_recordRows hstorable]

end Calls

/-! ## Two newest-first cuts of the same records -/

/-- The in-memory listing with a positive limit is a newest-first cut of the account's records. -/
theorem newestCut_listByAccount (T : Store) (x n : Int) (hn : 0 < n) :
    NewestCut (T.ofAccount x) n.toNat (T.listByAccount x n) :=
  ⟨T.listByAccount x 0, Store.listByAccount_zero_perm T x, Store.listByAccount_zero_sorted T x,
    by rw [Store.listByAccount_limit, if_pos hn]⟩

/-- Two newest-first orders of the same records have the same times in the same places. -/
theorem NewestFirst.map_ns_eq {L₁ L₂ : List Transaction} (h₁ : NewestFirst L₁)
    (h₂ : NewestFirst L₂) (hperm : L₁.Perm L₂) :
    L₁.map (·.timestamp.ns) = L₂.map (·.timestamp.ns) := by
  have hsorted : ∀ {L : List Transaction}, NewestFirst L →
      (L.map (·.timestamp.ns)).Pairwise fun a b => b ≤ a := fun h =>
    h.map _ fun _ _ hab => hab
  exact (hperm.map _).eq_of_pairwise (fun a b _ _ hab hba => le_antisymm hba hab)
    (hsorted h₁) (hsorted h₂)

/-- Two newest-first cuts of the same records have the same times in the same places: they
differ only in the order of records of the same time. -/
theorem NewestCut.map_ns_eq {rows l₁ l₂ : List Transaction} {n : Nat}
    (h₁ : NewestCut rows n l₁) (h₂ : NewestCut rows n l₂) :
    l₁.map (·.timestamp.ns) = l₂.map (·.timestamp.ns) := by
  obtain ⟨L₁, hperm₁, hsorted₁, rfl⟩ := h₁
  obtain ⟨L₂, hperm₂, hsorted₂, rfl⟩ := h₂
  rw [List.map_take, List.map_take, hsorted₁.map_ns_eq hsorted₂ (hperm₁.trans hperm₂.symm)]

/-! ## The two stores compared -/

/-- How the two stores compare on one status update on tables `T`: the same tables and
successes, and refusals that differ exactly for a missing record or one not completed. -/
structure StatusUpdatesAgree (srv : Server Store) (now : Instant) (T : Store) (id : Uuid)
    (status : TxnStatus) (v : Int) : Prop where
  tables : (srv.call (updateStatus id status v) T).2 =
    Store.settle T (T.updateStatus id status v now)
  answer : (srv.call (updateStatus id status v) T).1 =
    ((T.updateStatus id status v now).map Prod.snd).mapError fun _ =>
      .refused (if status = .failed then .versionConflict else .invalidTransition)
  succeeds_iff : (∃ r, (srv.call (updateStatus id status v) T).1 = .ok r) ↔
    ∃ t, T.recordOf id = some t ∧ t.status = .completed ∧ status = .failed ∧ t.version = v
  refusals_differ_iff : ∀ f f', (srv.call (updateStatus id status v) T).1 = .error f →
    T.updateStatus id status v now = .error f' →
      (f ≠ f' ↔ T.recordOf id = none ∨
        (status = .failed ∧ ∃ t, T.recordOf id = some t ∧ t.status ≠ .completed))

/-- How the two stores compare on one balance update, made on tables `T`: the same answer; the
same tables after, the relational store holding the new balance as the decimal its text reads
as, of the same value; success exactly on an account with the id at the version named; and
every refusal a version conflict. -/
structure BalanceUpdatesAgree (srv : Server Store) (now : Instant) (T : Store) (id v : Int)
    (b : Decimal) : Prop where
  answer : (srv.call (updateBalance id b v) T).1 = (T.updateBalance id v b now).map Prod.snd
  tables : ∃ b', Decimal.parse b.toText = .ok b' ∧ b'.toRat = b.toRat ∧
    (srv.call (updateBalance id b v) T).2 = Store.settle T (T.updateBalance id v b' now)
  succeeds_iff : (∃ r, (srv.call (updateBalance id b v) T).1 = .ok r) ↔
    ∃ a, T.accountOf id = some a ∧ a.version = v
  refusal : ∀ f, (srv.call (updateBalance id b v) T).1 = .error f →
    f = .refused .versionConflict

/-- How the two stores compare on listing an account's records with limit `n`: the relational
store leaves the tables and lists `l`; `l` and the in-memory listing are both newest-first cuts
of the account's records at `n`, so they have the same times in the same places. -/
structure ListingsAgree (srv : Server Store) (T : Store) (x n : Int) : Prop where
  tables : (srv.call (listByAccount x n) T).2 = T
  cuts : ∃ l, (srv.call (listByAccount x n) T).1 = .ok l ∧
    NewestCut (T.ofAccount x) n.toNat l ∧
    NewestCut (T.ofAccount x) n.toNat (T.listByAccount x n) ∧
    l.map (·.timestamp.ns) = (T.listByAccount x n).map (·.timestamp.ns)

section Agreement

variable {srv : Server Store} {now : Instant}

theorem statusUpdatesAgree (hpg : RunsAsPostgres srv now) {T : Store} (hT : Tabular T) {id : Uuid}
    (hid : id.value < Nat.pow 2 128) (status : TxnStatus) (v : Int) :
    StatusUpdatesAgree srv now T id status v := by
  have hcall := call_updateStatus hpg hT hid status v
  refine ⟨by rw [hcall], by rw [hcall], ?_, ?_⟩
  · rw [hcall, ← Store.updateStatus_ok_iff T id status v now]
    rcases T.updateStatus id status v now with f | ⟨T', r⟩
    · simp [Except.mapError, Except.map]
    · simp [Except.mapError, Except.map]
  · intro f f' hf hf'
    rw [hcall, hf'] at hf
    simp only [Except.map, Except.mapError, Except.error.injEq] at hf
    subst hf
    -- the in-memory refusal, by its cause
    cases (Store.updateStatus_error_iff T id status v now f').mp hf' with
    | missing hnone =>
      simp only [hnone, true_or, iff_true]
      split_ifs <;> simp
    | @notAllowed t hfind hmove =>
      by_cases hs : status = .failed
      · subst hs
        have hc : t.status ≠ .completed := fun hc => by simp [hc, TxnStatus.canBecome] at hmove
        simp [hfind, hc]
      · simp [hs, hfind]
    | @stale t hfind hmove hversion =>
      rw [Store.canBecome_eq_true_iff] at hmove
      simp [hfind, hmove.1, hmove.2]

/-- The balance update's result does not depend on the balance written. -/
theorem updateBalance_map_snd (s : Store) (id v : Int) (b b' : Decimal) (now : Instant) :
    (s.updateBalance id v b now).map Prod.snd = (s.updateBalance id v b' now).map Prod.snd := by
  unfold Store.updateBalance
  split
  · split <;> rfl
  · rfl

theorem balanceUpdatesAgree (hpg : RunsAsPostgres srv now) {T : Store}
    (hids : (T.accounts.map (·.id)).Nodup) (id v : Int) {b : Decimal}
    (hb : Decimal.minExp ≤ b.exp) :
    BalanceUpdatesAgree srv now T id v b := by
  obtain ⟨d, hd, hvalue⟩ := Decimal.parse_render b true hb
  have hcall := call_updateBalance hpg hids id v hd
  have hanswer :
      (srv.call (updateBalance id b v) T).1 = (T.updateBalance id v b now).map Prod.snd := by
    rw [hcall, updateBalance_map_snd T id v d b]
  refine ⟨hanswer, ⟨d, hd, hvalue, by rw [hcall]⟩, ?_, ?_⟩
  · rw [hanswer, ← Store.updateBalance_ok_iff T id v b now]
    rcases T.updateBalance id v b now with f | ⟨T', r⟩ <;> simp [Except.map]
  · intro f hf
    rw [hanswer] at hf
    rcases hmem : T.updateBalance id v b now with f' | r
    · rw [hmem] at hf
      simp only [Except.map, Except.error.injEq] at hf
      rw [← hf]
      exact Store.updateBalance_error hmem
    · rw [hmem] at hf
      cases hf

theorem listingsAgree (hpg : RunsAsPostgres srv now) {T : Store} (hT : Tabular T) (x n : Int)
    (hn : 0 < n) (hfk : ∀ r ∈ T.records, r.accountId = x → ∃ a ∈ T.accounts, a.id = x) :
    ListingsAgree srv T x n := by
  obtain ⟨L, hperm, hsorted, hcall⟩ := call_listByAccount hpg hT x n hn
  rw [joinedRecords_eq_ofAccount hT.accountIds hfk] at hperm
  have hcut : NewestCut (T.ofAccount x) n.toNat (L.take n.toNat) := ⟨L, hperm, hsorted, rfl⟩
  have hmem := newestCut_listByAccount T x n hn
  exact ⟨by rw [hcall], ⟨_, by rw [hcall], hcut, hmem, hcut.map_ns_eq hmem⟩⟩

end Agreement

/-- On tables the schema allows, the two stores' updates succeed on the same calls with the
same answers and tables, refuse as described by `StatusUpdatesAgree` and
`BalanceUpdatesAgree`, and list the same records newest first up to ties. -/
theorem memory_store_refines_relational {srv : Server Store} {now : Instant}
    (hpg : RunsAsPostgres srv now) {T : Store} (hT : Tabular T) :
    (∀ (id : Uuid) (status : TxnStatus) (v : Int), id.value < Nat.pow 2 128 →
      StatusUpdatesAgree srv now T id status v) ∧
    (∀ (id v : Int) (b : Decimal), Decimal.minExp ≤ b.exp → BalanceUpdatesAgree srv now T id v b) ∧
    (∀ x n : Int, 0 < n → (∀ r ∈ T.records, r.accountId = x → ∃ a ∈ T.accounts, a.id = x) →
      ListingsAgree srv T x n) :=
  ⟨fun _ status v hid => statusUpdatesAgree hpg hT hid status v,
    fun id v _ hb => balanceUpdatesAgree hpg hT.accountIds id v hb,
    fun x n hn hfk => listingsAgree hpg hT x n hn hfk⟩

/-! ## A database for the witnesses -/

/-- A server that runs the store's three statements as `RunsAsPostgres` says, putting the listing
in the in-memory store's order, and refuses every other statement. -/
def tableServer (now : Instant) : Server Store := fun T st =>
  if st.sql = balanceUpdateSql then
    match st.args with
    | [.text x, .int id, .int v] =>
      match Decimal.parse x with
      | .ok d => balanceUpdateAnswer now T d id v
      | .error m => (.failure m, T)
    | _ => (.failure "bad arguments", T)
  else if st.sql = statusUpdateSql then
    match st.args with
    | [.text s, .text x, .int v, .text c] => statusUpdateAnswer now T s x v c
    | _ => (.failure "bad arguments", T)
  else if st.sql = accountRecordsSql then
    match st.args with
    | [.int x, .int n] =>
      (rowsReply recordColumnNames
        ((((joinedRecords T x).mergeSort Store.newerFirst).take n.toNat).map recordRow), T)
    | _ => (.failure "bad arguments", T)
  else (.failure "unsupported statement", T)

theorem tableServer_runsAsPostgres (now : Instant) : RunsAsPostgres (tableServer now) now where
  balance T x id v d hd := by
    simp [tableServer, hd]
  status T s x v c := by
    have hne : statusUpdateSql ≠ balanceUpdateSql := by decide
    simp [tableServer, hne]
  listing T x n _ := by
    have hne₁ : accountRecordsSql ≠ balanceUpdateSql := by decide
    have hne₂ : accountRecordsSql ≠ statusUpdateSql := by decide
    refine ⟨(joinedRecords T x).mergeSort Store.newerFirst, List.mergeSort_perm _ _,
      Store.newerFirst_sorted _, ?_⟩
    simp [tableServer, hne₁, hne₂]

/-- One account with one completed deposit of 50.00 against it. -/
def oneDeposit : Store where
  lastId := 1
  accounts := [⟨1, Bytes.ofString "ACC1", ⟨100, 0⟩, ⟨0, 0⟩, ⟨0, 0⟩, 0⟩]
  records :=
    [⟨⟨1⟩, 1, Bytes.ofString "ACC1", .deposit, ⟨5000, -2⟩, ⟨0, 0⟩, .completed, 0, ⟨0, 0⟩⟩]

theorem oneDeposit_tabular : Tabular oneDeposit where
  accountIds := by decide
  recordIds := by decide
  storable r hr := by
    simp only [oneDeposit, List.mem_singleton] at hr
    subst hr
    exact ⟨by decide, rfl, rfl, by decide, by decide⟩

theorem memory_store_refines_relational_on_one_deposit :
    RunsAsPostgres (tableServer ⟨0, 0⟩) ⟨0, 0⟩ ∧ Tabular oneDeposit ∧
      (∀ (id : Uuid) (status : TxnStatus) (v : Int), id.value < Nat.pow 2 128 →
        StatusUpdatesAgree (tableServer ⟨0, 0⟩) ⟨0, 0⟩ oneDeposit id status v) ∧
      (∀ (id v : Int) (b : Decimal), Decimal.minExp ≤ b.exp →
        BalanceUpdatesAgree (tableServer ⟨0, 0⟩) ⟨0, 0⟩ oneDeposit id v b) ∧
      (∀ x n : Int, 0 < n → (∀ r ∈ oneDeposit.records, r.accountId = x →
          ∃ a ∈ oneDeposit.accounts, a.id = x) →
        ListingsAgree (tableServer ⟨0, 0⟩) oneDeposit x n) :=
  ⟨tableServer_runsAsPostgres _, oneDeposit_tabular,
    memory_store_refines_relational (tableServer_runsAsPostgres _) oneDeposit_tabular⟩

theorem empty_tabular : Tabular {} := ⟨by simp, by simp, by simp⟩

/-- The two stores refuse a status update of a missing record differently: marking failed a record
that no table holds is a version conflict for the relational store, *not found* for the
in-memory store. -/
theorem missing_record_refusals_differ :
    RunsAsPostgres (tableServer ⟨0, 0⟩) ⟨0, 0⟩ ∧
      ((tableServer ⟨0, 0⟩).call (updateStatus ⟨7⟩ .failed 0) {}).1 =
        .error (.refused .versionConflict) ∧
      ({} : Store).updateStatus ⟨7⟩ .failed 0 ⟨0, 0⟩ = .error (.refused .notFound) := by
  refine ⟨tableServer_runsAsPostgres _, ?_, rfl⟩
  rw [call_updateStatus (tableServer_runsAsPostgres _) empty_tabular (by decide)]
  rfl

end Relational

end Ledger
