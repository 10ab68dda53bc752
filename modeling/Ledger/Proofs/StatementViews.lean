import Mathlib
import Ledger.Proofs.DecimalText
import Ledger.Proofs.Utf8Reading
import Ledger.Statement
import Ledger.Http.Api
/-!
# The two statements of an account

The XML and JSON statements of an account agree on its number and on every transaction's id,
type, status and time (`statement_views_agree`); their amounts agree exactly when they are
whole numbers of hundredths.
-/

namespace Ledger.Xml.Node

/-- The value of an attribute of an element, as a reader looks it up. -/
def attr? : Node → String → Option Bytes
  | .element _ attrs _, key => attrs.lookup key
  | .text _, _ => none

/-- The name of an element. -/
def name? : Node → Option String
  | .element name _ _ => some name
  | .text _ => none

/-- The child nodes of an element. -/
def children : Node → List Node
  | .element _ _ cs => cs
  | .text _ => []

/-- The first child element with a name, as a reader finds it. -/
def child? (n : Node) (name : String) : Option Node := n.children.find? (·.name? == some name)

/-- The text of a text node; an element holds none of its own. -/
def ownText : Node → Bytes
  | .text t => t
  | .element .. => []

/-- The text an element holds directly, as a reader gives it: empty when it has none. -/
def textContent (n : Node) : Bytes := n.children.flatMap ownText

@[simp]
theorem attr?_element (name : String) (attrs : List (String × Bytes)) (cs : List Node)
    (key : String) : (element name attrs cs).attr? key = attrs.lookup key := rfl

@[simp]
theorem children_element (name : String) (attrs : List (String × Bytes)) (cs : List Node) :
    (element name attrs cs).children = cs := rfl

@[simp]
theorem name?_element (name : String) (attrs : List (String × Bytes)) (cs : List Node) :
    (element name attrs cs).name? = some name := rfl

@[simp]
theorem child?_element (name : String) (attrs : List (String × Bytes)) (cs : List Node)
    (key : String) : (element name attrs cs).child? key = cs.find? (·.name? == some key) := rfl

end Ledger.Xml.Node

namespace Ledger.Json

/-- The bytes of a JSON string. -/
def str? : Json → Option Bytes
  | .str s => some s
  | _ => none

/-- The literal of a JSON number. -/
def numberText? : Json → Option String
  | .number s => some s
  | _ => none

end Ledger.Json

namespace Ledger.Statement

open Xml.Node Http

@[simp]
theorem name?_textElement (name : String) (b : Bytes) : (textElement name b).name? = some name :=
  rfl

/-- A reader gets back the text of a text element, also when it is empty. -/
@[simp]
theorem text_textElement (name : String) (b : Bytes) : (textElement name b).textContent = b := by
  unfold textElement
  split
  · rename_i hb
    simp only [List.isEmpty_iff] at hb
    simp [hb, textContent]
  · simp [textContent, ownText]

/-- The value a reader takes from decimal text, when it reads as a decimal. -/
def textValue (s : String) : Option ℚ := (Decimal.parse s).toOption.map Decimal.toRat

/-- An XML text and a JSON number literal that both read as decimals, and as the same value
exactly when the JSON one is a whole number of hundredths. -/
def NumbersAgree (xml : Option Bytes) (json : Option String) : Prop :=
  ∃ p q, (xml.map Bytes.toText).bind textValue = some p ∧ json.bind textValue = some q ∧
    (p = q ↔ (q * 100).den = 1)

/-- A transaction element of the XML statement against an item of the JSON one, as a reader
compares them: the same id, type and status, amounts that agree as `NumbersAgree` says, and
times written from the same instant, in UTC and at the record's offset. -/
structure EntryAgrees (node : Xml.Node) (item : Json) : Prop where
  id : node.attr? "id" = (item.get? "transactionId").bind Json.str?
  type : (node.child? "Type").map textContent = (item.get? "transactionType").bind Json.str?
  status : (node.child? "Status").map textContent = (item.get? "status").bind Json.str?
  amount : NumbersAgree ((node.child? "Amount").map textContent)
    ((item.get? "amount").bind Json.numberText?)
  timestamp : ∃ u o,
    (node.child? "Timestamp").map textContent = some (Bytes.ofString (Instant.zonedText u 0)) ∧
      (item.get? "timestamp").bind Json.str? = some (Bytes.ofString (Instant.zonedText u o))

/-- The XML statement of an account against the JSON items of its records. -/
structure ViewsAgree (x : Xml.Node) (a : Account) (items : List Json) : Prop where
  account : x.attr? "accountNumber" = some a.number
  count : (x.child? "Transactions").bind (·.attr? "count") =
    some (Bytes.ofString (toString items.length))
  entries : List.Forall₂ EntryAgrees ((x.child? "Transactions").map children |>.getD []) items
  balance : NumbersAgree ((x.child? "Balance").map textContent) (some a.balance.toText)

/-- The two-place text and the canonical text of a decimal in range agree as
`NumbersAgree` says. -/
theorem numbersAgree_of_decimal (d : Decimal) (hexp : Decimal.minExp ≤ d.exp) :
    NumbersAgree (some (Bytes.ofString (d.toFixed 2))) (some d.toText) := by
  obtain ⟨x, y, hx, hy, hyv, hiff⟩ := Decimal.fixed_two_reads_back d hexp
  refine ⟨x.toRat, y.toRat, ?_, ?_, ?_⟩
  · simp [textValue, hx, Except.toOption, Bytes.toText_ofString]
  · simp [textValue, hy, Except.toOption]
  · rw [hiff, hyv]

/-- The time text of an instant that has a JSON text is its wall time at its own offset. -/
theorem jsonText?_eq_some {t : Instant} {s : String} (h : t.jsonText? = some s) :
    s = Instant.zonedText t.utc t.offset := by
  unfold Instant.jsonText? at h
  dsimp only at h
  split at h
  · exact (Option.some.inj h).symm
  · exact absurd h (by simp)

theorem toText_eq_zonedText_utc (t : Instant) : t.toText = Instant.zonedText t.utc 0 := by
  simp [Instant.zonedText]
  rfl

/-- A record's transaction element and its JSON item agree entry by entry. -/
theorem entry_agrees {t : Transaction} {item : Json} (h : recordJson t = some item)
    (hexp : Decimal.minExp ≤ t.amount.exp) : EntryAgrees (transactionNode t) item := by
  obtain ⟨stamp, hstamp, rfl⟩ : ∃ stamp, t.timestamp.jsonText? = some stamp ∧
      item = .obj [("transactionId", .text t.id.toText), ("accountNumber", .str t.accountNumber),
        ("transactionType", .text t.type.text), ("amount", .number t.amount.toText),
        ("timestamp", .text stamp), ("status", .text t.status.text)] := by
    simp only [recordJson] at h
    cases hs : t.timestamp.jsonText? with
    | none => simp [hs] at h
    | some stamp =>
      simp only [hs, Option.bind_eq_bind, Option.bind_some, Option.pure_def, Option.some.injEq] at h
      exact ⟨stamp, rfl, h.symm⟩
  refine ⟨?id, ?type, ?status, ?amount, ?timestamp⟩
  case id | type | status => simp [transactionNode, Json.get?, Json.text, Json.str?, List.lookup]
  case amount =>
    simpa [transactionNode, Json.get?, Json.numberText?, List.lookup] using
      numbersAgree_of_decimal _ hexp
  case timestamp =>
    refine ⟨t.timestamp.utc, t.timestamp.offset, ?_, ?_⟩
    · simp [transactionNode, toText_eq_zonedText_utc]
    · simp [Json.get?, Json.text, Json.str?, List.lookup, jsonText?_eq_some hstamp]

/-- The transaction elements of a list of records agree, in order, with the JSON items the
records give. -/
theorem entries_agree : ∀ {ts : List Transaction} {items : List Json},
    ts.mapM recordJson = some items → (∀ t ∈ ts, Decimal.minExp ≤ t.amount.exp) →
      List.Forall₂ EntryAgrees (ts.map transactionNode) items
  | [], items, h, _ => by
    simp only [List.mapM_nil, Option.pure_def, Option.some.injEq] at h
    subst h
    exact .nil
  | t :: ts, items, h, hexp => by
    simp only [List.mapM_cons, Option.bind_eq_bind, Option.pure_def, Option.bind_eq_some_iff,
      Option.some.injEq] at h
    obtain ⟨item, hitem, rest, hrest, rfl⟩ := h
    exact .cons (entry_agrees hitem (hexp t List.mem_cons_self))
      (entries_agree hrest fun t' ht' => hexp t' (List.mem_cons_of_mem t ht'))

/-- The XML and JSON statements agree on the account number, the transactions' ids, types,
statuses and instants, and on amounts exactly when these are whole numbers of hundredths. -/
theorem statement_views_agree (st : Service.Statement) (items : List Json)
    (hjson : st.records.mapM recordJson = some items)
    (hbalance : Decimal.minExp ≤ st.account.balance.exp)
    (hamounts : ∀ t ∈ st.records, Decimal.minExp ≤ t.amount.exp) :
    ViewsAgree (tree st.account st.records st.generatedAt) st.account items := by
  have hentries := entries_agree hjson hamounts
  have hlength : st.records.length = items.length := by
    simpa using List.Forall₂.length_eq hentries
  refine ⟨?account, ?count, ?entries, ?balance⟩
  case account => simp [tree]
  case count => simp [tree, hlength]
  case entries => simpa [tree] using hentries
  case balance => simpa [tree] using numbersAgree_of_decimal _ hbalance

theorem statement_views_agree_of_one_record :
    let t : Transaction := { (default : Transaction) with amount := ⟨1050, -2⟩ }
    let st : Service.Statement :=
      ⟨{ (default : Account) with balance := ⟨1050, -2⟩ }, [t], default⟩
    (st.records.mapM recordJson = some [(recordJson t).getD .null] ∧
      Decimal.minExp ≤ st.account.balance.exp ∧
      ∀ r ∈ st.records, Decimal.minExp ≤ r.amount.exp) ∧
    ViewsAgree (tree st.account st.records st.generatedAt) st.account [(recordJson t).getD .null] :=
  have hjson : List.mapM recordJson [{ (default : Transaction) with amount := ⟨1050, -2⟩ }] =
      some [(recordJson { (default : Transaction) with amount := ⟨1050, -2⟩ }).getD .null] :=
    rfl
  have hbalance : Decimal.minExp ≤ (⟨1050, -2⟩ : Decimal).exp := by decide
  have hamounts : ∀ r ∈ [{ (default : Transaction) with amount := ⟨1050, -2⟩ }],
      Decimal.minExp ≤ r.amount.exp := by simp [Decimal.minExp]
  ⟨⟨hjson, hbalance, hamounts⟩, statement_views_agree _ _ hjson hbalance hamounts⟩

/-- A balance of three places, as a seeded account may have: the statement shows it as
`100.01`, while its canonical text, the JSON balance, is `100.005`, a different value. -/
theorem statement_rounds_three_place_balance :
    let a : Account := { (default : Account) with balance := ⟨100005, -3⟩ }
    ((tree a [] default).child? "Balance").map textContent = some (Bytes.ofString "100.01") ∧
      a.balance.toText = "100.005" ∧ textValue "100.01" ≠ textValue "100.005" := by
  have hfixed : (⟨100005, -3⟩ : Decimal).toFixed 2 = "100.01" := by decide
  have hcents : Decimal.parse "100.01" = .ok ⟨10001, -2⟩ := rfl
  have hmills : Decimal.parse "100.005" = .ok ⟨100005, -3⟩ := rfl
  refine ⟨?_, by decide, ?_⟩
  · simp [tree, hfixed]
  · simp only [textValue, hcents, hmills, Except.toOption, Option.map_some, ne_eq,
      Option.some.injEq, Decimal.toRat]
    norm_num

end Ledger.Statement
