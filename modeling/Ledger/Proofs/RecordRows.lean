import Mathlib
import Ledger.Store.Relational
import Ledger.Proofs.DecimalText
import Ledger.Proofs.CanonicalBinding
import Ledger.Proofs.Utf8Reading
/-!
# Rows of the relational store

A record that a row can hold reads back from its row as itself, and sending a statement
takes the connection's next reply: a query's result, a single row or *no rows*, or every row
of a listing.
-/

namespace Ledger.Relational

open Sql

/-! ## Identifiers as bytes -/

/-- The sixteen bytes of an identifier, most significant first. -/
def uuidBytes (u : Uuid) : Bytes :=
  (List.range 16).reverse.map fun i => UInt8.ofNat (u.value / Nat.pow 256 i % 256)

/-- Reading the lowest `n` bytes of a number back, most significant first, after `acc`. -/
theorem foldl_bytes_of_range (v acc n : Nat) :
    ((List.range n).reverse.map fun i => UInt8.ofNat (v / Nat.pow 256 i % 256)).foldl
      (fun acc b => acc * 256 + b.toNat) acc = acc * Nat.pow 256 n + v % Nat.pow 256 n := by
  induction n generalizing acc with
  | zero => simp [Nat.mod_one]
  | succ n ih =>
    rw [List.range_succ, List.reverse_append, List.reverse_singleton, List.singleton_append,
      List.map_cons, List.foldl_cons, ih]
    have hbyte : (UInt8.ofNat (v / Nat.pow 256 n % 256)).toNat = v / Nat.pow 256 n % 256 := by
      simp
    rw [hbyte, Nat.pow_eq, Nat.pow_eq, Nat.mod_pow_succ, pow_succ]
    ring

theorem length_uuidBytes (u : Uuid) : (uuidBytes u).length = 16 := by
  simp [uuidBytes]

/-- A 128-bit identifier is read back from its sixteen bytes. -/
theorem ofBytes_uuidBytes {u : Uuid} (h : u.value < Nat.pow 2 128) :
    Uuid.ofBytes (uuidBytes u) = u := by
  have hpow : Nat.pow 256 16 = Nat.pow 2 128 := by decide
  simp only [Uuid.ofBytes, uuidBytes, foldl_bytes_of_range, zero_mul, zero_add, hpow,
    Nat.mod_eq_of_lt h]

/-! ## Decimal text in a text column -/

/-- An ASCII byte stands only for its own character: every byte of a longer encoding is at
least `0x80`. -/
theorem mem_utf8EncodeChar_of_lt {b : UInt8} (hb : b.toNat < 128) (c : Char) :
    b ∈ String.utf8EncodeChar c ↔ c.toNat = b.toNat := by
  have hv : c.toNat = c.val.toNat := rfl
  unfold String.utf8EncodeChar
  dsimp only
  split_ifs <;> simp [UInt8.ext_iff] <;> omega

theorem mem_ofString_of_lt {b : UInt8} (hb : b.toNat < 128) (s : String) :
    b ∈ Bytes.ofString s ↔ ∃ c ∈ s.toList, c.toNat = b.toNat := by
  simp only [Bytes.ofString_eq_flatMap, List.mem_flatMap, mem_utf8EncodeChar_of_lt hb]

/-- A decimal's text in a text column is read as it is: it holds no double quote to strip. -/
theorem toDecimal_render (d : Decimal) (trim : Bool) :
    SqlValue.toDecimal (.text (d.render trim)) =
      (Decimal.parse (d.render trim)).mapError ScanError.badDecimal := by
  have hquote : (34 : UInt8) ∉ Bytes.ofString (d.render trim) := by
    rw [mem_ofString_of_lt (by decide)]
    rintro ⟨c, hc, hcode⟩
    rcases d.render_chars trim c hc with h | rfl | rfl
    · have hc' : c = '"' := Char.ext (UInt32.toNat_inj.mp hcode)
      subst hc'
      simp [Char.isDigit] at h
    · simp at hcode
    · simp at hcode
  have hunquote :
      SqlValue.unquote (Bytes.ofString (d.render trim)) = Bytes.ofString (d.render trim) := by
    unfold SqlValue.unquote
    rw [if_neg]
    intro h
    simp only [Bool.and_eq_true, beq_iff_eq, decide_eq_true_eq] at h
    exact hquote (List.mem_of_mem_head? h.1.2)
  simp only [SqlValue.toDecimal, SqlValue.toDecimal.readDecimal, hunquote, Bytes.toText_ofString]
  cases Decimal.parse (d.render trim) <;> rfl

/-! ## Records as rows -/

/-- A record that a row of the transactions table can hold: a 128-bit id, a type and a
status that read back from their texts, and an amount that is a numeric, with no positive
exponent and no more places than a decimal can have. -/
structure Storable (t : Transaction) : Prop where
  id_lt : t.id.value < Nat.pow 2 128
  type_text : TxnType.ofText t.type.text = t.type
  status_text : TxnStatus.ofText t.status.text = t.status
  exp_le : t.amount.exp ≤ 0
  exp_ge : Decimal.minExp ≤ t.amount.exp

/-- The columns of a record row. -/
def recordColumnNames : List String :=
  ["transaction_id", "account_id", "account_number", "transaction_type", "amount", "timestamp",
    "status", "version", "last_modified_at"]

/-- A record as the database sends it in a row. -/
def recordRow (t : Transaction) : List SqlValue :=
  [.bytes (uuidBytes t.id), .int t.accountId, .bytes t.accountNumber, .text t.type.text,
    .text (t.amount.render false), .time t.timestamp 0, .text t.status.text, .int t.version,
    .time t.lastModifiedAt 0]

theorem readRecord_recordRow {t : Transaction} (h : Storable t) :
    readRecord recordColumnNames (recordRow t) = .ok t := by
  have hamount := toDecimal_render t.amount false
  rw [Decimal.parse_render_false h.exp_le h.exp_ge, Except.mapError] at hamount
  simp [readRecord, recordRow, recordColumnNames, expectWidth, column, SqlValue.toUuid,
    SqlValue.toInteger, SqlValue.toText, SqlValue.toTime, SqlValue.plain, length_uuidBytes,
    ofBytes_uuidBytes h.id_lt, hamount, Bytes.toText_ofString, h.type_text, h.status_text,
    Bind.bind, Except.bind, Pure.pure, Except.pure]

theorem mapM_readRecord :
    ∀ ts : List Transaction, (∀ t ∈ ts, Storable t) →
      (ts.map recordRow).mapM (fun row => (readRecord recordColumnNames row).mapError
        (failedTo "scan transaction")) = .ok ts
  | [], _ => rfl
  | t :: ts, h => by
    rw [List.map_cons, List.mapM_cons, readRecord_recordRow (h t List.mem_cons_self),
      mapM_readRecord ts fun t' ht' => h t' (List.mem_cons_of_mem t ht')]
    rfl

/-- The rows of records that the table can hold read back as the records. -/
theorem readAll_recordRows {ts : List Transaction} (h : ∀ t ∈ ts, Storable t) :
    readAll ⟨recordColumnNames, ts.map recordRow, none⟩ = .ok ts := by
  simp only [readAll, mapM_readRecord ts h]
  rfl

/-! ## Sending a statement -/

/-- A query sends its statement and takes the next reply; a result comes back as it is. -/
theorem query_run_result {sql : String} {args : List SqlValue} {c : Connection} {cur : Cursor}
    {n : Int} {rest : List Reply} (h : c.replies = .result cur n :: rest) :
    (query sql args).run c =
      (.ok cur, { c with replies := rest, sent := ⟨.query, sql, args⟩ :: c.sent }) := by
  simp [query, send, h, StateT.run, bind, StateT.bind, get, getThe, MonadStateOf.get,
    StateT.get, set, StateT.set, pure, StateT.pure]

/-- Reading one row reads the first row of the result. -/
theorem queryRow_run_row {α : Type} (sql : String) (args : List SqlValue) (read : RowRead α)
    {c : Connection} {cols : List String} {row : List SqlValue} {more : List (List SqlValue)}
    {fail : Option String} {n : Int} {rest : List Reply}
    (h : c.replies = .result ⟨cols, row :: more, fail⟩ n :: rest) :
    (queryRow sql args read).run c =
      (read cols row, { c with replies := rest, sent := ⟨.query, sql, args⟩ :: c.sent }) := by
  rw [queryRow, StateT.run_bind, query_run_result h]
  rfl

/-- A result without rows reads as no row. -/
theorem queryRow_run_empty {α : Type} (sql : String) (args : List SqlValue) (read : RowRead α)
    {c : Connection} {cols : List String} {n : Int} {rest : List Reply}
    (h : c.replies = .result ⟨cols, [], none⟩ n :: rest) :
    (queryRow sql args read).run c =
      (.error .noRows, { c with replies := rest, sent := ⟨.query, sql, args⟩ :: c.sent }) := by
  rw [queryRow, StateT.run_bind, query_run_result h]
  rfl

/-- A listing reads every row of the result it gets. -/
theorem list_run {sql : String} {args : List SqlValue} {c : Connection} {cur : Cursor} {n : Int}
    {rest : List Reply} (h : c.replies = .result cur n :: rest) :
    (list sql args).run c =
      (readAll cur, { c with replies := rest, sent := ⟨.query, sql, args⟩ :: c.sent }) := by
  rw [list, StateT.run_bind, query_run_result h]
  rfl

end Ledger.Relational
