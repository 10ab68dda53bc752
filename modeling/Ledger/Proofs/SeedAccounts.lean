import Mathlib
import Ledger.Config.Clients
import Ledger.Proofs.DecimalText
import Ledger.Proofs.SignerAgreement
/-!
# Reading seed accounts

A comma-separated list of `NUMBER:BALANCE` entries reads exactly when each item is an entry,
as the accounts of its entries in order (`SeedAccount.parseList_eq_ok_iff`), and accounts
written as entries read back as themselves.
-/

namespace Ledger

/-- A traversal that can fail succeeds exactly when every item succeeds, with their results
in order. -/
theorem mapM_except_eq_ok_iff {α β ε : Type} {f : α → Except ε β} {xs : List α} {ys : List β} :
    xs.mapM f = .ok ys ↔ List.Forall₂ (fun x y => f x = .ok y) xs ys := by
  induction xs generalizing ys with
  | nil => cases ys <;> simp [pure, Except.pure]
  | cons x xs ih =>
    simp only [List.mapM_cons, List.forall₂_cons_left_iff, ← ih]
    cases f x <;> cases xs.mapM f <;> simp [bind, Except.bind, pure, Except.pure, eq_comm]

theorem exists_forall₂_iff {α β : Type} {R : α → β → Prop} :
    ∀ {l : List α}, (∃ bs, List.Forall₂ R l bs) ↔ ∀ a ∈ l, ∃ b, R a b
  | [] => by simp
  | a :: l => by
    simp only [List.forall₂_cons_left_iff, List.mem_cons, forall_eq_or_imp, ← exists_forall₂_iff]
    constructor
    · rintro ⟨_, b, bs, hab, hbs, rfl⟩
      exact ⟨⟨b, hab⟩, bs, hbs⟩
    · rintro ⟨⟨b, hab⟩, bs, hbs⟩
      exact ⟨_, b, bs, hab, hbs, rfl⟩

/-! ## Cutting at the first `:` -/

/-- Spanning the characters other than `x` cuts a list at its first `x`. -/
theorem span_ne_eq_iff {l pre post : List Char} {x : Char} :
    l.span (· != x) = (pre, x :: post) ↔ l = pre ++ x :: post ∧ x ∉ pre := by
  rw [List.span_eq_takeWhile_dropWhile]
  constructor
  · intro h
    simp only [Prod.mk.injEq] at h
    obtain ⟨htake, hdrop⟩ := h
    refine ⟨by rw [← htake, ← hdrop, List.takeWhile_append_dropWhile], fun hx => ?_⟩
    rw [← htake] at hx
    simpa using List.mem_takeWhile_imp hx
  · rintro ⟨rfl, hx⟩
    have hpre : ∀ c ∈ pre, (c != x) = true := fun c hc => by
      simp only [bne_iff_ne, ne_eq]
      rintro rfl
      exact hx hc
    rw [List.takeWhile_append_of_pos hpre, List.dropWhile_append_of_pos hpre]
    simp

/-- A list holds no `x`, and the span keeps all of it, or the span cuts it at an `x`. -/
theorem span_ne_cases (l : List Char) (x : Char) :
    (x ∉ l ∧ l.span (· != x) = (l, [])) ∨ ∃ pre post, l.span (· != x) = (pre, x :: post) := by
  rw [List.span_eq_takeWhile_dropWhile]
  cases hd : l.dropWhile (· != x) with
  | nil =>
    left
    simp only [List.dropWhile_eq_nil_iff, bne_iff_ne] at hd
    refine ⟨fun hx => hd x hx rfl, ?_⟩
    rw [List.takeWhile_eq_self_iff.mpr (by simpa using hd)]
  | cons c post =>
    right
    -- what the span leaves starts with the first character it stopped at
    have hc := List.head_dropWhile_not (· != x) (l := l) (by simp [hd])
    simp only [hd, List.head_cons, bne_eq_false_iff_eq] at hc
    exact ⟨_, post, by rw [hc]⟩

/-- A list has one first `x`. -/
theorem cut_unique {l pre post pre' post' : List Char} {x : Char}
    (h : l = pre ++ x :: post) (hpre : x ∉ pre) (h' : l = pre' ++ x :: post') (hpre' : x ∉ pre') :
    pre = pre' ∧ post = post' := by
  have hspan := (span_ne_eq_iff.mpr ⟨h, hpre⟩).symm.trans (span_ne_eq_iff.mpr ⟨h', hpre'⟩)
  simpa using hspan

/-! ## Trimming -/

/-- Trimming keeps a text exactly when it neither starts nor ends with a blank. -/
theorem trimBlank_eq_self_iff {s : String} :
    String.trimBlank s = s ↔ s.toList.dropWhile Text.isBlank = s.toList ∧
      s.toList.reverse.dropWhile Text.isBlank = s.toList.reverse := by
  constructor
  · intro h
    have hlen : (String.trimBlank s).toList.length = s.toList.length := by rw [h]
    simp only [String.trimBlank, String.toList_ofList, List.length_reverse] at hlen
    -- trimming the front alone already keeps every character
    have hle : s.toList.length ≤ (s.toList.dropWhile Text.isBlank).length := by
      calc s.toList.length
          = ((s.toList.dropWhile Text.isBlank).reverse.dropWhile Text.isBlank).length := hlen.symm
        _ ≤ (s.toList.dropWhile Text.isBlank).reverse.length := List.length_dropWhile_le _ _
        _ = (s.toList.dropWhile Text.isBlank).length := List.length_reverse
    have hfront : s.toList.dropWhile Text.isBlank = s.toList :=
      (List.dropWhile_suffix _).eq_of_length (le_antisymm (List.length_dropWhile_le _ _) hle)
    refine ⟨hfront, ?_⟩
    have h' := congrArg String.toList h
    simp only [String.trimBlank, String.toList_ofList, hfront] at h'
    simpa using congrArg List.reverse h'
  · rintro ⟨hfront, hback⟩
    simp [String.trimBlank, hfront, hback]

/-- Two texts that trimming keeps, neither empty, are kept together. -/
theorem trimBlank_append {s t : String} (hs : String.trimBlank s = s) (hs0 : s ≠ "")
    (ht : String.trimBlank t = t) (ht0 : t ≠ "") : String.trimBlank (s ++ t) = s ++ t := by
  rw [trimBlank_eq_self_iff] at hs ht ⊢
  have hsne : s.toList ≠ [] := by simpa using hs0
  have htne : t.toList.reverse ≠ [] := by simpa using ht0
  simp only [String.toList_append, List.reverse_append, List.dropWhile_append, hs.1, ht.2,
    List.isEmpty_iff, hsne, htne, if_false, and_self]

/-! ## Entries -/

/-- `item` is an entry for the account `a`: a `:` cuts it, the part before the first one,
trimmed of blanks, is the account's number and not empty, and the part after it, trimmed of
blanks, reads as the account's balance, which is not negative. -/
def SeedAccount.Entry (item : String) (a : SeedAccount) : Prop :=
  ∃ number balance, item.toList = number ++ ':' :: balance ∧ ':' ∉ number ∧
    a.number = String.trimBlank (String.ofList number) ∧ a.number ≠ "" ∧
    Decimal.parse (String.trimBlank (String.ofList balance)) = .ok a.balance ∧ 0 ≤ a.balance.toRat

namespace SeedAccount

/-- Once the first `:` of an item is known, being an entry is a matter of its two parts. -/
theorem entry_iff_of_cut {item : String} {number balance : List Char} {a : SeedAccount}
    (hitem : item.toList = number ++ ':' :: balance) (hnumber : ':' ∉ number) :
    Entry item a ↔ a.number = String.trimBlank (String.ofList number) ∧ a.number ≠ "" ∧
      Decimal.parse (String.trimBlank (String.ofList balance)) = .ok a.balance ∧
      0 ≤ a.balance.toRat := by
  constructor
  · rintro ⟨number', balance', hitem', hnumber', hread⟩
    obtain ⟨rfl, rfl⟩ := cut_unique hitem hnumber hitem' hnumber'
    exact hread
  · exact fun hread => ⟨number, balance, hitem, hnumber, hread⟩

/-- An item reads as an account exactly when it is an entry for it. -/
theorem parse_eq_ok_iff {item : String} {a : SeedAccount} : parse item = .ok a ↔ Entry item a := by
  rcases span_ne_cases item.toList ':' with ⟨hno, hspan⟩ | ⟨number, balance, hspan⟩
  · -- no `:` at all: refused, and no cut to make an entry
    simp only [parse, hspan, reduceCtorEq, false_iff]
    rintro ⟨number, balance, hitem, -⟩
    exact hno (by simp [hitem])
  · obtain ⟨hitem, hnumber⟩ := span_ne_eq_iff.mp hspan
    rw [entry_iff_of_cut hitem hnumber]
    simp only [parse, hspan]
    obtain ⟨n, d⟩ := a
    by_cases hempty : (String.trimBlank (String.ofList number)).isEmpty = true
    · simp only [if_pos hempty, reduceCtorEq, false_iff]
      rintro ⟨rfl, hne, -⟩
      exact hne (String.isEmpty_iff.mp hempty)
    · rw [if_neg hempty]
      cases hread : Decimal.parse (String.trimBlank (String.ofList balance)) with
      | error e => simp
      | ok d' =>
        by_cases hneg : d'.isNegative = true
        · -- a negative balance is refused, and is not the balance of an entry
          have hlt : ¬0 ≤ d'.toRat := by simpa [← Decimal.isNegative_eq_false_iff] using hneg
          simp only [if_pos hneg, reduceCtorEq, false_iff, Except.ok.injEq]
          rintro ⟨-, -, rfl, hnn⟩
          exact hlt hnn
        · have hnn : 0 ≤ d'.toRat := by simpa [← Decimal.isNegative_eq_false_iff] using hneg
          simp only [if_neg hneg, Except.ok.injEq, SeedAccount.mk.injEq]
          constructor
          · rintro ⟨rfl, rfl⟩
            exact ⟨rfl, fun h => hempty (String.isEmpty_iff.mpr h), rfl, hnn⟩
          · rintro ⟨rfl, -, rfl, -⟩
            exact ⟨rfl, rfl⟩

/-- `item` has an account number: a `:` cuts it, and the part before the first one is not
all blanks. -/
def Numbered (item : String) : Prop :=
  ∃ number balance, item.toList = number ++ ':' :: balance ∧ ':' ∉ number ∧
    String.trimBlank (String.ofList number) ≠ ""

theorem Entry.numbered {item : String} {a : SeedAccount} (h : Entry item a) : Numbered item := by
  obtain ⟨number, balance, hitem, hnumber, hname, hne, -⟩ := h
  exact ⟨number, balance, hitem, hnumber, hname ▸ hne⟩

/-- A refused item is quoted in the error, which calls it a bad entry when it has no account
number and a bad balance otherwise. -/
theorem parse_error_message {item e : String} (h : parse item = .error e) :
    (Numbered item → e = "invalid balance in SEED_ACCOUNTS entry " ++ Text.quoteString item) ∧
    (¬Numbered item → e = "invalid SEED_ACCOUNTS entry " ++ Text.quoteString item) := by
  rcases span_ne_cases item.toList ':' with ⟨hno, hspan⟩ | ⟨number, balance, hspan⟩
  · have hnum : ¬Numbered item := by
      rintro ⟨number, balance, hitem, -⟩
      exact hno (by simp [hitem])
    simp only [parse, hspan, Except.error.injEq] at h
    exact ⟨fun h' => absurd h' hnum, fun _ => h.symm⟩
  · obtain ⟨hitem, hnumber⟩ := span_ne_eq_iff.mp hspan
    -- the account number is the part before this cut
    have hnum : Numbered item ↔ String.trimBlank (String.ofList number) ≠ "" := by
      constructor
      · rintro ⟨number', balance', hitem', hnumber', hne⟩
        obtain ⟨rfl, rfl⟩ := cut_unique hitem hnumber hitem' hnumber'
        exact hne
      · exact fun hne => ⟨number, balance, hitem, hnumber, hne⟩
    simp only [parse, hspan] at h
    by_cases hempty : (String.trimBlank (String.ofList number)).isEmpty = true
    · rw [if_pos hempty, Except.error.injEq] at h
      exact ⟨fun h' => absurd (String.isEmpty_iff.mp hempty) (hnum.mp h'), fun _ => h.symm⟩
    · rw [if_neg hempty] at h
      -- every refusal past the number is one of the balance
      have hbal : e = "invalid balance in SEED_ACCOUNTS entry " ++ Text.quoteString item := by
        split at h
        · split at h
          · exact (Except.error.inj h).symm
          · cases h
        · exact (Except.error.inj h).symm
      have hnumbered : Numbered item := hnum.mpr fun he => hempty (String.isEmpty_iff.mpr he)
      exact ⟨fun _ => hbal, fun h' => absurd hnumbered h'⟩

/-- A list of entries reads as the accounts of its non-blank items, in order. -/
theorem parseList_eq_ok_iff {raw : String} {as : List SeedAccount} :
    parseList raw = .ok as ↔ List.Forall₂ Entry (commaItems raw) as := by
  simp only [parseList, mapM_except_eq_ok_iff, parse_eq_ok_iff]

theorem parseList_ok_iff {raw : String} :
    (∃ as, parseList raw = .ok as) ↔ ∀ item ∈ commaItems raw, ∃ a, Entry item a := by
  simp only [parseList_eq_ok_iff, exists_forall₂_iff]

/-! ## Writing entries -/

/-- The entry of an account: its number, a `:`, and its balance's canonical text. -/
def render (a : SeedAccount) : String := a.number ++ ":" ++ a.balance.toText

/-- A list of accounts written as entries separated by commas. -/
def renderList (as : List SeedAccount) : String := String.intercalate "," (as.map render)

/-- An account that can be written as an entry and read back: its number is not empty and
holds no `,` or `:` and no blank at either end, and its balance is not negative, with an
exponent in the range of decimals. -/
structure Writable (a : SeedAccount) : Prop where
  number_ne : a.number ≠ ""
  no_comma : ',' ∉ a.number.toList
  no_colon : ':' ∉ a.number.toList
  trimmed : String.trimBlank a.number = a.number
  exp_ge : Decimal.minExp ≤ a.balance.exp
  nonneg : 0 ≤ a.balance.toRat

theorem not_blank_of_text {c : Char} (h : c.isDigit = true ∨ c = '.' ∨ c = '-') :
    Text.isBlank c = false := by
  rcases h with h | rfl | rfl
  · exact isBlank_of_isDigit h
  · decide
  · decide

theorem ne_comma_of_text {c : Char} (h : c.isDigit = true ∨ c = '.' ∨ c = '-') : c ≠ ',' := by
  rintro rfl
  simp [Char.isDigit] at h

/-- Trimming keeps the canonical text of a decimal. -/
theorem trimBlank_toText (d : Decimal) : String.trimBlank d.toText = d.toText :=
  trimBlank_of_forall_not_blank fun c hc => not_blank_of_text (d.render_chars true c hc)

/-- The entry of an account is an entry for an account of the same number and the same
balance by value. -/
theorem Writable.entry_render {a : SeedAccount} (h : a.Writable) :
    ∃ b, Entry a.render b ∧ b.number = a.number ∧ b.balance.toRat = a.balance.toRat := by
  obtain ⟨x, hx, hval⟩ := Decimal.parse_render a.balance true h.exp_ge
  refine ⟨⟨a.number, x⟩, ⟨a.number.toList, a.balance.toText.toList, by simp [render], h.no_colon,
    by simp [h.trimmed], h.number_ne, ?_, hval ▸ h.nonneg⟩, rfl, hval⟩
  rw [String.ofList_toList, trimBlank_toText]
  exact hx

theorem Writable.no_comma_render {a : SeedAccount} (h : a.Writable) : ',' ∉ a.render.toList := by
  simp only [render, String.toList_append, List.mem_append, not_or]
  exact ⟨⟨h.no_comma, by decide⟩, fun hc => ne_comma_of_text (a.balance.render_chars true _ hc) rfl⟩

theorem Writable.trimBlank_render {a : SeedAccount} (h : a.Writable) :
    String.trimBlank a.render = a.render := by
  -- the number is trimmed already, and what follows it holds no blank
  have htail : String.trimBlank (":" ++ a.balance.toText) = ":" ++ a.balance.toText := by
    apply trimBlank_of_forall_not_blank
    simp only [String.toList_append, List.mem_append]
    rintro c (hc | hc)
    · rw [show c = ':' by simpa using hc]
      decide
    · exact not_blank_of_text (a.balance.render_chars true c hc)
  rw [render, String.append_assoc]
  exact trimBlank_append h.trimmed h.number_ne htail (by simp)

/-- Items without commas, each kept by trimming and none empty, are the items of their
comma separated text. -/
theorem commaItems_intercalate {items : List String} (hcomma : ∀ s ∈ items, ',' ∉ s.toList)
    (htrim : ∀ s ∈ items, String.trimBlank s = s) (hne : ∀ s ∈ items, s ≠ "") :
    commaItems (String.intercalate "," items) = items := by
  cases items with
  | nil => simp [commaItems, String.trimBlank]
  | cons s rest =>
    have hsplit : (String.intercalate "," (s :: rest)).toList.splitOn ',' =
        (s :: rest).map String.toList := by
      rw [String.toList_intercalate]
      exact List.splitOn_intercalate ',' (by simpa using hcomma) (by simp)
    have hkeep : ∀ t ∈ s :: rest,
        ((fun item => String.trimBlank (String.ofList item)) ∘ String.toList) t = t :=
      fun t ht => by simp [htrim t ht]
    rw [commaItems, hsplit, List.map_map, List.map_congr_left hkeep, List.map_id',
      List.filter_eq_self]
    intro t ht
    simpa using hne t ht

/-- Accounts that can be written, written as a list of entries, read back as accounts of
the same numbers and the same balances by value. -/
theorem parseList_renderList {as : List SeedAccount} (h : ∀ a ∈ as, a.Writable) :
    ∃ bs, parseList (renderList as) = .ok bs ∧
      List.Forall₂ (fun a b => b.number = a.number ∧ b.balance.toRat = a.balance.toRat) as bs := by
  have hitems : commaItems (renderList as) = as.map render := by
    apply commaItems_intercalate <;> simp only [List.mem_map] <;> rintro _ ⟨a, ha, rfl⟩
    · exact (h a ha).no_comma_render
    · exact (h a ha).trimBlank_render
    · simp [render]
  obtain ⟨bs, hbs⟩ := exists_forall₂_iff.mpr fun a ha => (h a ha).entry_render
  refine ⟨bs, parseList_eq_ok_iff.mpr ?_, hbs.imp fun _ _ hab => hab.2⟩
  rw [hitems, List.forall₂_map_left_iff]
  exact hbs.imp fun _ _ hab => hab.1

/-- A list of seed accounts reads exactly its grammar: it reads when each of its non-blank
items is an entry, and then as the accounts of those entries in order. Accounts written as
entries read back as the same numbers and balances of the same value. -/
theorem seed_list_reads_exactly_its_entries :
    (∀ raw as, parseList raw = .ok as ↔ List.Forall₂ Entry (commaItems raw) as) ∧
    (∀ raw, (∃ as, parseList raw = .ok as) ↔ ∀ item ∈ commaItems raw, ∃ a, Entry item a) ∧
    ∀ as : List SeedAccount, (∀ a ∈ as, a.Writable) →
      ∃ bs, parseList (renderList as) = .ok bs ∧
        List.Forall₂ (fun a b => b.number = a.number ∧ b.balance.toRat = a.balance.toRat) as bs :=
  ⟨fun _ _ => parseList_eq_ok_iff, fun _ => parseList_ok_iff, fun _ => parseList_renderList⟩

/-- Two accounts, one with a balance in hundredths and one empty, read back from their
entries. -/
theorem seed_list_reads_two_written_accounts :
    let as : List SeedAccount := [⟨"ACC-1", ⟨10050, -2⟩⟩, ⟨"ACC-2", ⟨0, 0⟩⟩]
    (∀ a ∈ as, a.Writable) ∧ ∃ bs, parseList (renderList as) = .ok bs ∧
      List.Forall₂ (fun a b => b.number = a.number ∧ b.balance.toRat = a.balance.toRat) as bs := by
  intro as
  have hw : ∀ a ∈ as, a.Writable := by
    simp only [as, List.mem_cons, List.not_mem_nil, or_false, forall_eq_or_imp, forall_eq]
    refine ⟨⟨by decide, by decide, by decide, by decide, by decide, ?_⟩,
      ⟨by decide, by decide, by decide, by decide, by decide, ?_⟩⟩
    · simp [Decimal.toRat]
    · simp [Decimal.toRat]
  exact ⟨hw, seed_list_reads_exactly_its_entries.2.2 as hw⟩

end SeedAccount

end Ledger
