import Mathlib
import Ledger.Log
import Ledger.Proofs.ScrubPass
/-!
# No sensitive value in clear

A log line holds the scrubbed message and the entry's fields, each rendered under its own name
(`line?_fields`). The scrub runs eight passes, each over the output of the one before: a token
that no earlier match overlaps is masked by its own pass, and its stars stay through the later
passes (`scrub_hides_reached_token`). An earlier match over a token can leave it in clear.
-/

namespace Ledger.Mask

open Bytes

/-! ## The tokens the patterns aim at -/

/-- Whether a piece is a character that matches the pattern character. -/
def pieceMatches (folded : Bool) (c : Char) : Piece → Bool
  | .char d => charMatches folded c d
  | .stray _ => false

/-- Pieces that read as the lead of a pattern: one matching character for each of its
characters. -/
def LeadReads (folded : Bool) (lead : List Char) (ps : List Piece) : Prop :=
  List.Forall₂ (fun c q => pieceMatches folded c q = true) lead ps

instance (folded : Bool) (lead : List Char) (ps : List Piece) :
    Decidable (LeadReads folded lead ps) := by
  unfold LeadReads
  infer_instance

/-- What follows the lead in a token of each shape: the pieces kept before the value, the value,
the pieces kept after it, and the piece after the token, if any. Every run in it is as long as
it can be. -/
def Shape.Spans : Shape → List Piece → List Piece → List Piece → Option Piece → Prop
  | .token, pre, v, post, next => pre = [] ∧ post = [] ∧ v ≠ [] ∧ (∀ x ∈ v, inToken x = true) ∧
      ∀ x ∈ next, inToken x = false
  | .segment, pre, v, post, next => pre = [] ∧ post = [] ∧ v ≠ [] ∧
      (∀ x ∈ v, inSegment x = true) ∧ ∀ x ∈ next, inSegment x = false
  | .header, pre, v, post, next => post = [] ∧ ∃ c b, pre = c ++ b ∧
      ((c = [] ∧ ∀ x ∈ (b ++ v ++ next.toList).head?, isChar ':' x = false) ∨
        ∃ x, c = [x] ∧ isChar ':' x = true) ∧
      (∀ x ∈ b, isBlankPiece x = true) ∧ (∀ x ∈ (v ++ next.toList).head?, isBlankPiece x = false) ∧
      (∀ x ∈ v, inHeaderValue x = true) ∧ ∀ x ∈ next, inHeaderValue x = false
  | .quoted, pre, v, post, _ => ∃ b₁ colon b₂ q q₂, pre = b₁ ++ colon :: b₂ ++ [q] ∧ post = [q₂] ∧
      (∀ x ∈ b₁, isBlankPiece x = true) ∧ isChar ':' colon = true ∧
      (∀ x ∈ b₂, isBlankPiece x = true) ∧ isChar '"' q = true ∧
      (∀ x ∈ v, isChar '"' x = false) ∧ isChar '"' q₂ = true

theorem matchLead_of_reads {folded : Bool} {lead : List Char} {L : List Piece}
    (h : LeadReads folded lead L) (rest : List Piece) : matchLead folded lead (L ++ rest) = some rest := by
  induction h with
  | nil => rfl
  | @cons c q cs qs hc _ ih =>
    cases q with
    | char d =>
      have hd : charMatches folded c d = true := hc
      simp [matchLead, hd, ih]
    | stray b => simp [pieceMatches] at hc

/-- A run of pieces that all pass, before one that does not, is what `takeWhile` takes and
`dropWhile` leaves. -/
theorem takeWhile_dropWhile_of_stop {q : Piece → Bool} {G R : List Piece}
    (hG : ∀ x ∈ G, q x = true) (hR : ∀ x ∈ R.head?, q x = false) :
    (G ++ R).takeWhile q = G ∧ (G ++ R).dropWhile q = R := by
  rw [List.takeWhile_append_of_pos hG, List.dropWhile_append_of_pos hG]
  cases R with
  | nil => simp
  | cons r R' =>
    have hr := hR r rfl
    simp [hr]

theorem head?_append_head? (l r : List Piece) : (l ++ r.head?.toList).head? = (l ++ r).head? := by
  cases l <;> cases r <;> rfl

theorem matchShape_header_of_no_colon {lead ps : List Piece}
    (h : ∀ x ∈ ps.head?, isChar ':' x = false) :
    matchShape lead .header ps = some ⟨lead ++ ps.takeWhile isBlankPiece,
      (ps.dropWhile isBlankPiece).takeWhile inHeaderValue, []⟩ := by
  cases ps with
  | nil => simp [matchShape]
  | cons y ys => simp [matchShape, h y rfl]

theorem matchShape_header_of_colon {lead ps : List Piece} {x : Piece} (hx : isChar ':' x = true) :
    matchShape lead .header (x :: ps) = some ⟨lead ++ [x] ++ ps.takeWhile isBlankPiece,
      (ps.dropWhile isBlankPiece).takeWhile inHeaderValue, []⟩ := by
  simp [matchShape, hx]

/-- The shapes match their tokens. -/
theorem matchShape_of_spans {lead : List Piece} {shape : Shape} {pre v post rest : List Piece}
    (h : shape.Spans pre v post rest.head?) :
    matchShape lead shape (pre ++ v ++ post ++ rest) = some ⟨lead ++ pre, v, post⟩ := by
  cases shape with
  | token | segment =>
    obtain ⟨rfl, rfl, hne, hv, hnext⟩ := h
    obtain ⟨htake, -⟩ := takeWhile_dropWhile_of_stop hv hnext
    simp only [matchShape, List.nil_append, List.append_nil, htake]
    simp [hne]
  | header =>
    obtain ⟨rfl, c, b, rfl, hc, hb, hbstop, hv, hnext⟩ := h
    rw [head?_append_head?] at hbstop
    obtain ⟨hbtake, hbdrop⟩ := takeWhile_dropWhile_of_stop hb hbstop
    obtain ⟨hvtake, -⟩ := takeWhile_dropWhile_of_stop hv hnext
    rcases hc with ⟨rfl, hcolon⟩ | ⟨x, rfl, hx⟩
    · rw [head?_append_head?] at hcolon
      simp only [List.nil_append, List.append_nil, List.append_assoc] at hcolon hbtake hbdrop ⊢
      rw [matchShape_header_of_no_colon hcolon, hbtake, hbdrop, hvtake]
    · simp only [List.append_nil, List.nil_append, List.append_assoc, List.cons_append]
        at hbtake hbdrop ⊢
      rw [matchShape_header_of_colon hx, hbtake, hbdrop, hvtake, List.append_assoc,
        List.singleton_append]
  | quoted =>
    obtain ⟨b₁, colon, b₂, q, q₂, rfl, rfl, hb₁, hcolon, hb₂, hq, hv, hq₂⟩ := h
    have hcolon' : isBlankPiece colon = false := by
      cases colon <;> simp_all [isChar, isBlankPiece, isPatternBlank]
    have hq' : isBlankPiece q = false := by
      cases q <;> simp_all [isChar, isBlankPiece, isPatternBlank]
    obtain ⟨h1t, h1d⟩ := takeWhile_dropWhile_of_stop (R := colon :: (b₂ ++ [q] ++ v ++ [q₂] ++ rest))
      hb₁ (by simpa using hcolon')
    obtain ⟨h2t, h2d⟩ := takeWhile_dropWhile_of_stop (R := q :: (v ++ [q₂] ++ rest))
      hb₂ (by simpa using hq')
    obtain ⟨h3t, h3d⟩ := takeWhile_dropWhile_of_stop (q := fun p => !isChar '"' p)
      (R := q₂ :: rest) (by simpa using hv) (by simpa using hq₂)
    simp only [List.append_assoc, List.cons_append, List.nil_append] at h1t h1d h2t h2d
    simp only [matchShape, List.append_assoc, List.cons_append, List.nil_append, h1t, h1d,
      hcolon, if_true, h2t, h2d, hq, h3t, h3d]

/-- A pattern matches at the front of each of its tokens. -/
theorem matchAt_of_reads {p : Pattern} {L pre v post rest : List Piece}
    (hlead : LeadReads p.folded p.lead L) (hspans : p.shape.Spans pre v post rest.head?) :
    matchAt p (L ++ pre ++ v ++ post ++ rest) = some ⟨L ++ pre, v, post⟩ := by
  have hlen : L.length = p.lead.length := hlead.length_eq.symm
  have hread := matchLead_of_reads hlead (pre ++ v ++ post ++ rest)
  simp only [List.append_assoc] at hread ⊢
  rw [matchAt, hread, List.take_left' hlen]
  simpa only [List.append_assoc] using matchShape_of_spans hspans

/-! ## Where a token starts and ends -/

/-- A piece that is an ASCII character, written as one byte below 0x80. -/
def AsciiPiece (x : Piece) : Prop := ∃ d, x = .char d ∧ d.toNat < 128

theorem bytes_of_asciiPiece {x : Piece} (h : AsciiPiece x) : ∃ b, x.bytes = [b] ∧ b.toNat < 0x80 := by
  obtain ⟨d, rfl, hd⟩ := h
  refine ⟨d.toNat.toUInt8, by simp [Piece.bytes, encodeChar, hd], ?_⟩
  rw [Nat.toUInt8_eq, toNat_ofNat_lt (by omega)]
  exact hd

/-- A text whose first piece is an ASCII character starts with that one byte. -/
theorem head?_of_pieces_ascii {bs : Bytes} {x : Piece} {rest : List Piece}
    (h : pieces bs = x :: rest) (hx : AsciiPiece x) : ∃ b, bs.head? = some b ∧ b.toNat < 0x80 := by
  obtain ⟨b, hb, hb80⟩ := bytes_of_asciiPiece hx
  refine ⟨b, ?_, hb80⟩
  rw [← ofPieces_pieces bs, h, ofPieces_cons, hb]
  rfl

theorem toNat_toLower (d : Char) :
    d.toLower.toNat = if 65 ≤ d.toNat ∧ d.toNat ≤ 90 then d.toNat + 32 else d.toNat := by
  have hiff : (d.val ≥ 'A'.val ∧ d.val ≤ 'Z'.val) ↔ (65 ≤ d.toNat ∧ d.toNat ≤ 90) := by
    simp only [ge_iff_le, UInt32.le_iff_toNat_le]
    rfl
  unfold Char.toLower
  split
  · rename_i hup
    rw [if_pos (hiff.mp hup)]
    have hd : d.toNat = d.val.toNat := rfl
    have := (hiff.mp hup).2
    change (d.val + 32).toNat = d.toNat + 32
    rw [UInt32.toNat_add, hd]
    simp
    omega
  · rename_i hup
    rw [if_neg (fun h => hup (hiff.mpr h))]

/-- An ASCII pattern character other than a `k` or an `s` matches only ASCII characters: the
case-folded match of those two also takes the Kelvin sign and the long s. -/
theorem toNat_lt_of_charMatches {folded : Bool} {c d : Char} (h : charMatches folded c d = true)
    (hc : c.toNat < 128) (hk : c.toLower ≠ 'k') (hs : c.toLower ≠ 's') : d.toNat < 128 := by
  simp only [charMatches, Bool.or_eq_true, beq_iff_eq, Bool.and_eq_true] at h
  rcases h with hdc | ⟨-, (hlow | ⟨hck, -⟩) | ⟨hcs, -⟩⟩
  · exact hdc ▸ hc
  · have hd := toNat_toLower d
    have hc' := toNat_toLower c
    rw [hlow] at hd
    split_ifs at hd hc' <;> omega
  · exact absurd hck hk
  · exact absurd hcs hs

theorem patterns_lead_head :
    (patterns.all fun q => 4 ≤ q.lead.length && (q.lead.take 1).all fun c =>
      decide (c.toNat < 128) && c.toLower != 'k' && c.toLower != 's') = true := by
  decide +kernel

theorem lead_length_of_mem {q : Pattern} (hq : q ∈ patterns) : 4 ≤ q.lead.length := by
  have h := List.all_eq_true.mp patterns_lead_head q hq
  simp only [Bool.and_eq_true, decide_eq_true_eq] at h
  exact h.1

theorem lead_ne_nil_of_mem {q : Pattern} (hq : q ∈ patterns) : q.lead ≠ [] := by
  have := lead_length_of_mem hq
  rintro h
  simp [h] at this

/-- A token of a pattern starts with an ASCII character. -/
theorem head_asciiPiece_of_reads {q : Pattern} (hq : q ∈ patterns) {L : List Piece}
    (h : LeadReads q.folded q.lead L) : ∃ x L', L = x :: L' ∧ AsciiPiece x := by
  have hfacts := List.all_eq_true.mp patterns_lead_head q hq
  obtain ⟨c, cs, hlead⟩ := List.exists_cons_of_ne_nil (lead_ne_nil_of_mem hq)
  rw [hlead] at h hfacts
  obtain _ | ⟨hd, -⟩ := h
  rename_i x _
  cases x with
  | stray b => simp [pieceMatches] at hd
  | char d =>
    simp only [List.length_cons, List.take_succ_cons, List.take_zero, List.all_cons, List.all_nil,
      Bool.and_true, Bool.and_eq_true, decide_eq_true_eq, bne_iff_ne, ne_eq] at hfacts
    exact ⟨_, _, rfl, d, rfl, toNat_lt_of_charMatches hd hfacts.2.1.1 hfacts.2.1.2 hfacts.2.2⟩

theorem asciiPiece_of_isChar {c : Char} {x : Piece} (h : isChar c x = true) (hc : c.toNat < 128) :
    AsciiPiece x := by
  cases x with
  | char d =>
    simp only [isChar, beq_iff_eq] at h
    exact ⟨d, rfl, h ▸ hc⟩
  | stray b => simp [isChar] at h

theorem toNat_lt_of_isPatternBlank {c : Char} (h : isPatternBlank c = true) : c.toNat < 128 := by
  simp only [isPatternBlank, Bool.or_eq_true, decide_eq_true_eq] at h
  rcases h with (((rfl | rfl) | rfl) | rfl) | rfl <;> decide

theorem asciiPiece_of_inToken {x : Piece} (h : inToken x = true) : AsciiPiece x := by
  cases x with
  | char d =>
    refine ⟨d, rfl, ?_⟩
    simp [inToken, Char.isAlphanum, Char.isAlpha, Char.isUpper, Char.isLower, Char.isDigit,
      UInt32.le_iff_toNat_le] at h
    rcases h with h | rfl
    · omega
    · decide
  | stray b => simp [inToken] at h

theorem asciiPiece_of_not_inSegment {x : Piece} (h : inSegment x = false) : AsciiPiece x := by
  cases x with
  | char d =>
    refine ⟨d, rfl, ?_⟩
    simp only [inSegment, Bool.not_eq_false', Bool.or_eq_true, decide_eq_true_eq] at h
    rcases h with ((((rfl | rfl) | rfl) | rfl) | hb)
    any_goals decide
    exact toNat_lt_of_isPatternBlank hb
  | stray b => simp [inSegment] at h

theorem asciiPiece_of_not_inHeaderValue {x : Piece} (h : inHeaderValue x = false) : AsciiPiece x := by
  cases x with
  | char d =>
    refine ⟨d, rfl, ?_⟩
    simp only [inHeaderValue, Bool.not_eq_false', Bool.or_eq_true, decide_eq_true_eq] at h
    rcases h with ((rfl | rfl) | hb)
    any_goals decide
    exact toNat_lt_of_isPatternBlank hb
  | stray b => simp [inHeaderValue] at h

/-- A token ends where reading can resume: on an ASCII character of its own, or before one or
the end of the text. -/
theorem Shape.Spans.ends_ascii {shape : Shape} {pre v post : List Piece} {next : Option Piece}
    (h : shape.Spans pre v post next) :
    (∃ x, (pre ++ v ++ post).getLast? = some x ∧ AsciiPiece x) ∨ ∀ x ∈ next, AsciiPiece x := by
  cases shape with
  | token =>
    obtain ⟨rfl, rfl, hne, hv, -⟩ := h
    obtain ⟨x, hx⟩ := Option.ne_none_iff_exists'.mp (mt List.getLast?_eq_none_iff.mp hne)
    exact .inl ⟨x, by simpa using hx, asciiPiece_of_inToken (hv x (List.mem_of_getLast? hx))⟩
  | segment =>
    obtain ⟨-, -, -, -, hnext⟩ := h
    exact .inr fun x hx => asciiPiece_of_not_inSegment (hnext x hx)
  | header =>
    obtain ⟨-, -, -, -, -, -, -, -, hnext⟩ := h
    exact .inr fun x hx => asciiPiece_of_not_inHeaderValue (hnext x hx)
  | quoted =>
    obtain ⟨-, -, -, -, q₂, -, rfl, -, -, -, -, -, hq₂⟩ := h
    exact .inl ⟨q₂, by simp, asciiPiece_of_isChar hq₂ (by decide)⟩

/-- A token in a text ends on an ASCII character of its own, or before one or the end of the
text. -/
theorem ends_ascii_of_spans {tok : Bytes} {shape : Shape} {L pre v post : List Piece}
    {next : Option Piece} (htok : pieces tok = L ++ pre ++ v ++ post)
    (h : shape.Spans pre v post next) :
    (∃ y, (pieces tok).getLast? = some y ∧ AsciiPiece y) ∨ ∀ y ∈ next, AsciiPiece y := by
  rcases h.ends_ascii with ⟨y, hy, hya⟩ | hnext
  · refine .inl ⟨y, ?_, hya⟩
    rw [htok, List.append_assoc, List.append_assoc, List.getLast?_append_of_ne_nil]
    · simpa [List.append_assoc] using hy
    · intro hnil
      simp [hnil] at hy
  · exact .inr hnext

theorem eq_nil_of_next?_none {bs : Bytes} (h : next? bs = none) : bs = [] := by
  cases bs with
  | nil => rfl
  | cons b bs =>
    have := next?_cons_isSome b bs
    rw [h] at this
    cases this

/-- The first piece read from a text depends only on its first four bytes. -/
theorem head?_pieces_congr {W w : Bytes} (h : W.take 4 = w.take 4) :
    (pieces W).head? = (pieces w).head? := by
  rw [head?_pieces, head?_pieces]
  cases hw : next? w with
  | none =>
    obtain rfl := eq_nil_of_next?_none hw
    obtain rfl : W = [] := by simpa using h
    rfl
  | some pr =>
    obtain ⟨r', hr'⟩ := next?_congr_take hw h
    simp [hr']

/-- A text that ends on an ASCII character, or is followed by one or by nothing, is read apart
from what follows it. What follows may change past its first four bytes. -/
theorem pieces_append_of_ends {tok W w : Bytes}
    (hend : (∃ x, (pieces tok).getLast? = some x ∧ AsciiPiece x) ∨ ∀ x ∈ (pieces w).head?, AsciiPiece x)
    (htake : W.take 4 = w.take 4) (hlen : W.length = w.length) :
    pieces (tok ++ W) = pieces tok ++ pieces W := by
  rcases hend with ⟨x, hx, hxa⟩ | hnext
  · apply pieces_append_of_last_ascii
    obtain ⟨ys, hys⟩ := List.getLast?_eq_some_iff.mp hx
    obtain ⟨b, hb, hb80⟩ := bytes_of_asciiPiece hxa
    have htok : tok = ofPieces ys ++ [b] := by
      rw [← ofPieces_pieces tok, hys, ofPieces_append, ofPieces_cons, hb]
      rfl
    intro c hc
    rw [htok, List.getLast?_concat] at hc
    cases hc
    exact hb80
  · apply pieces_append_ascii
    rcases hw : pieces w with _ | ⟨x, rest⟩
    · -- nothing follows the token
      obtain rfl : w = [] := by
        rw [← ofPieces_pieces w, hw]
        rfl
      obtain rfl : W = [] := List.eq_nil_of_length_eq_zero hlen
      intro c hc
      cases hc
    · obtain ⟨b, hb, hb80⟩ := head?_of_pieces_ascii hw (hnext x (by simp [hw]))
      have hW : W.head? = some b := by
        have h1 := congrArg List.head? htake
        simpa [List.head?_take, hb] using h1
      intro c hc
      rw [hW] at hc
      cases hc
      exact hb80

/-! ## The eight passes -/

/-- The text after the first `n` passes of the scrub. -/
def afterPasses (n : Nat) (bs : Bytes) : Bytes :=
  (patterns.take n).foldl (fun acc q => scrubPattern q acc) bs

theorem afterPasses_succ {n : Nat} (hn : n < patterns.length) (bs : Bytes) :
    afterPasses (n + 1) bs = scrubPattern patterns[n] (afterPasses n bs) := by
  simp only [afterPasses, List.take_add_one, List.getElem?_eq_getElem hn, Option.toList_some,
    List.foldl_append, List.foldl_cons, List.foldl_nil]

theorem scrub_eq_afterPasses (bs : Bytes) : Bytes.scrub bs = afterPasses patterns.length bs := by
  simp [afterPasses, Bytes.scrub]

/-- No match a pass makes in a text starts before `b` and ends after `a`. -/
def Clear (p : Pattern) (bs : Bytes) (a b : Nat) : Prop :=
  ∀ x ∈ hits p bs, x.1 < b → x.1 + x.2.width ≤ a

instance (p : Pattern) (bs : Bytes) (a b : Nat) : Decidable (Clear p bs a b) := by
  unfold Clear
  infer_instance

theorem lead_add_value_le_width (f : Found) : f.lead + (ofPieces f.value).length ≤ f.width := by
  simp [Found.lead, Found.width, Found.pieces, ofPieces_append]

section Passes

variable {p : Pattern} (hp : p ∈ patterns)
include hp

theorem length_scrubPattern (bs : Bytes) : (scrubPattern p bs).length = bs.length := by
  rw [scrubPattern_eq_written, length_written (lead_ne_nil_of_mem hp), ofPieces_pieces]

/-- A star stays through a pass. -/
theorem scrubPattern_getElem?_star {bs : Bytes} {j : Nat} (h : bs[j]? = some star) :
    (scrubPattern p bs)[j]? = some star := by
  rw [scrubPattern_eq_written]
  rcases written_getElem? (lead_ne_nil_of_mem hp) (pieces bs) j with h' | h'
  · rw [h', ofPieces_pieces, h]
  · exact h'

theorem four_le_lead_of_mem_hits {bs : Bytes} {x : Nat × Found} (hx : x ∈ hits p bs) :
    4 ≤ x.2.lead := by
  obtain ⟨qs, hqs⟩ := matchAt_of_mem_hitsFrom hx
  have h1 := matchAt_lead_le hqs
  have h2 := length_pieces_le_ofPieces x.2.before
  have h3 := lead_length_of_mem hp
  simp only [Found.lead]
  omega

/-- A pass keeps the bytes from `a` to four bytes past `b` when no match it makes starts before
`b` and ends after `a`: a match starting at `b` or later writes nothing before its lead ends. -/
theorem scrubPattern_getElem?_of_clear {bs : Bytes} {a b : Nat} (hclear : Clear p bs a b)
    {j : Nat} (hja : a ≤ j) (hjb : j < b + 4) : (scrubPattern p bs)[j]? = bs[j]? := by
  rw [scrubPattern_eq_written, written_getElem?_of_not_value (lead_ne_nil_of_mem hp) _ 0 j,
    ofPieces_pieces]
  intro x hx
  have hlead := four_le_lead_of_mem_hits hp hx
  have hvalue := lead_add_value_le_width x.2
  by_cases hb : x.1 < b
  · have := hclear x hx hb
    omega
  · omega

/-- A pass masks the value of a match it reaches freely. -/
theorem scrubPattern_getElem?_value {bs : Bytes} {P T : List Piece} {f : Found}
    (hbs : pieces bs = P ++ T) (hT : matchAt p T = some f)
    (hclear : Clear p bs (ofPieces P).length (ofPieces P).length) {t : Nat}
    (ht : t < (ofPieces f.value).length) :
    (scrubPattern p bs)[(ofPieces P).length + f.lead + t]? = (mask (ofPieces f.value))[t]? := by
  have hne := lead_ne_nil_of_mem hp
  have hmem := mem_hitsFrom_of_clear hne hT P 0 0 (Nat.zero_le _)
    (by simpa [Clear, hits, hbs] using hclear)
  rw [Nat.zero_add] at hmem
  have hvalue := (written_getElem?_value hne (P ++ T) 0 _ hmem).2 t ht
  simpa only [scrubPattern_eq_written, hbs, Nat.sub_zero] using hvalue

end Passes

/-- Passes that each leave a stretch alone leave it alone together. -/
theorem afterPasses_window {k : Nat} (hk : k ≤ patterns.length) {bs : Bytes} {a b : Nat}
    (hclear : ∀ i (hi : i < k), Clear patterns[i] (afterPasses i bs) a b) :
    (afterPasses k bs).length = bs.length ∧
      ∀ j, a ≤ j → j < b + 4 → (afterPasses k bs)[j]? = bs[j]? := by
  induction k with
  | zero => exact ⟨rfl, fun _ _ _ => rfl⟩
  | succ k ih =>
    obtain ⟨hlen, hwin⟩ := ih (by omega) (fun i hi => hclear i (by omega))
    have hp : patterns[k] ∈ patterns := List.getElem_mem (by omega)
    rw [afterPasses_succ (by omega)]
    refine ⟨by rw [length_scrubPattern hp, hlen], fun j hja hjb => ?_⟩
    rw [scrubPattern_getElem?_of_clear hp (hclear k (by omega)) hja hjb, hwin j hja hjb]

/-- A star written by one pass is still there after the later ones. -/
theorem afterPasses_star {n m : Nat} (hnm : n ≤ m) (hm : m ≤ patterns.length) {bs : Bytes}
    {j : Nat} (h : (afterPasses n bs)[j]? = some star) : (afterPasses m bs)[j]? = some star := by
  induction m, hnm using Nat.le_induction with
  | base => exact h
  | succ m hnm ih =>
    rw [afterPasses_succ (by omega)]
    exact scrubPattern_getElem?_star (List.getElem_mem _) (ih (by omega))

theorem getElem?_mid (u tok w : Bytes) (i : Nat) :
    (u ++ tok ++ w)[u.length + i]? = (tok ++ w)[i]? := by
  rw [List.append_assoc, List.getElem?_append_right (by omega), Nat.add_sub_cancel_left]

/-- A text that agrees with `u ++ tok ++ w` on `tok` and the four bytes after it has `tok` at the
same place. -/
theorem append_of_window {X u tok w : Bytes} (hlen : X.length = (u ++ tok ++ w).length)
    (hwin : ∀ j, u.length ≤ j → j < u.length + tok.length + 4 → X[j]? = (u ++ tok ++ w)[j]?) :
    ∃ u' W, X = u' ++ tok ++ W ∧ u'.length = u.length ∧ W.take 4 = w.take 4 ∧
      W.length = w.length := by
  simp only [List.length_append] at hlen
  have htok : (X.drop u.length).take tok.length = tok := by
    apply List.ext_getElem?
    intro i
    rw [List.getElem?_take, List.getElem?_drop]
    split_ifs with hi
    · rw [hwin _ (by omega) (by omega), getElem?_mid, List.getElem?_append_left hi]
    · exact (List.getElem?_eq_none (by omega)).symm
  refine ⟨X.take u.length, X.drop (u.length + tok.length), ?_, by simp; omega, ?_, by simp; omega⟩
  · conv_lhs => rw [← List.take_append_drop u.length X,
      ← List.take_append_drop tok.length (X.drop u.length)]
    rw [htok, List.drop_drop, List.append_assoc]
  · apply List.ext_getElem?
    intro i
    rw [List.getElem?_take, List.getElem?_take, List.getElem?_drop]
    split_ifs with hi
    · rw [hwin _ (by omega) (by omega), Nat.add_assoc, getElem?_mid,
        List.getElem?_append_right (by omega), Nat.add_sub_cancel_left]
    · rfl

/-- The scrub hides every token its passes reach: a token of the `k`-th pattern that no
earlier match overlaps, and that no earlier match of its own pass runs into, is masked. -/
theorem scrub_hides_reached_token {k : Nat} (hk : k < patterns.length) {u tok w : Bytes}
    {L pre v post : List Piece} (htok : pieces tok = L ++ pre ++ v ++ post)
    (hlead : LeadReads patterns[k].folded patterns[k].lead L)
    (hspans : patterns[k].shape.Spans pre v post (pieces w).head?)
    (hearlier : ∀ i (hi : i < k),
      Clear patterns[i] (afterPasses i (u ++ tok ++ w)) u.length (u.length + tok.length))
    (hsame : Clear patterns[k] (afterPasses k (u ++ tok ++ w)) u.length u.length)
    {t : Nat} (ht : (mask (ofPieces v))[t]? = some star) :
    (Bytes.scrub (u ++ tok ++ w))[u.length + (ofPieces (L ++ pre)).length + t]? = some star := by
  have hp : patterns[k] ∈ patterns := List.getElem_mem hk
  -- the earlier passes leave the token and the four bytes after it as they were
  obtain ⟨hlen, hwin⟩ := afterPasses_window hk.le hearlier
  obtain ⟨u', W, hX, hu', htake, hW⟩ := append_of_window hlen hwin
  -- so the token's own pass reads it apart from what surrounds it
  obtain ⟨x, L', rfl, hx⟩ := head_asciiPiece_of_reads hp hlead
  obtain ⟨b, hb, hb80⟩ := head?_of_pieces_ascii htok hx
  have hhead : ∀ c ∈ (tok ++ W).head?, c.toNat < 0x80 := by
    rw [List.head?_append, hb]
    simpa using hb80
  have hread : pieces (afterPasses k (u ++ tok ++ w)) =
      pieces u' ++ ((x :: L') ++ pre ++ v ++ post ++ pieces W) := by
    rw [hX, List.append_assoc, pieces_append_ascii u' hhead,
      pieces_append_of_ends (ends_ascii_of_spans htok hspans) htake hW, htok]
  have hmatch : matchAt patterns[k] ((x :: L') ++ pre ++ v ++ post ++ pieces W) =
      some ⟨(x :: L') ++ pre, v, post⟩ :=
    matchAt_of_reads hlead (by rwa [head?_pieces_congr htake])
  have hvalue : t < (ofPieces v).length := by
    rw [← length_mask]
    exact (List.getElem?_eq_some_iff.mp ht).1
  -- its pass masks the value, and the later passes keep the stars
  have hmasked := scrubPattern_getElem?_value hp hread hmatch
    (by rwa [ofPieces_pieces, hu']) hvalue
  rw [← afterPasses_succ hk, ofPieces_pieces, hu'] at hmasked
  rw [scrub_eq_afterPasses]
  exact afterPasses_star (by omega) le_rfl (hmasked.trans ht)

end Ledger.Mask

namespace Ledger.Log

open Mask Bytes

/-! ## The line of an entry -/

theorem mem_of_mapM_eq_some {α β : Type} {f : α → Option β} :
    ∀ {xs : List α} {ys : List β}, xs.mapM f = some ys → ∀ y ∈ ys, ∃ x ∈ xs, f x = some y
  | [], _, h, y, hy => by
    simp only [List.mapM_nil, pure, Option.some.injEq] at h
    simp [← h] at hy
  | x :: xs, _, h, y, hy => by
    simp only [List.mapM_cons, bind, Option.bind_eq_some_iff, pure, Option.some.injEq] at h
    obtain ⟨b, hb, bs, hbs, rfl⟩ := h
    rcases List.mem_cons.mp hy with rfl | hy
    · exact ⟨x, List.mem_cons_self, hb⟩
    · obtain ⟨x', hx', hfx'⟩ := mem_of_mapM_eq_some hbs y hy
      exact ⟨x', List.mem_cons_of_mem _ hx', hfx'⟩

/-- What each step of a fold keeps of the list it builds, the whole fold keeps. -/
theorem forall_mem_foldl {α β : Type} {P : α → Prop} {f : List α → β → List α} :
    ∀ (l : List β) (acc : List α), (∀ x ∈ acc, P x) →
      (∀ acc, ∀ b ∈ l, (∀ x ∈ acc, P x) → ∀ x ∈ f acc b, P x) → ∀ x ∈ l.foldl f acc, P x
  | [], _, hacc, _ => hacc
  | b :: l, acc, hacc, hstep =>
    forall_mem_foldl l (f acc b) (hstep acc b List.mem_cons_self hacc)
      (fun acc' b' hb' => hstep acc' b' (List.mem_cons_of_mem _ hb'))

/-- Each field `dedupe` keeps is a field of the entry: a later value replaces an earlier one
under the same name. -/
theorem mem_of_mem_dedupe {fs : List (String × Value)} {kv : String × Value}
    (h : kv ∈ dedupe fs) : kv ∈ fs := by
  unfold dedupe at h
  refine forall_mem_foldl fs [] (by simp) (fun acc kv' hkv' hacc => ?_) kv h
  obtain ⟨k, v⟩ := kv'
  dsimp only
  split
  · intro x hx
    obtain ⟨⟨k', v'⟩, hmem, rfl⟩ := List.mem_map.mp hx
    by_cases hk : k' = k
    · subst hk
      simpa using hkv'
    · simpa [hk] using hacc _ hmem
  · intro x hx
    rcases List.mem_append.mp hx with hx | hx
    · exact hacc x hx
    · rw [List.mem_singleton.mp hx]
      exact hkv'

theorem clash_ne (name : String) :
    ∀ key ∈ ["time", "msg", "level", "logrus_error"], key ≠ "fields." ++ name := by
  intro key hkey h
  have hfirst := congrArg (fun s : String => s.toList.head?) h
  simp only [List.mem_cons, List.not_mem_nil, or_false] at hkey
  rcases hkey with rfl | rfl | rfl | rfl <;> simp [String.toList_append] at hfirst

/-- A field of a written line is a field of the entry, under its name or under the name with
`fields.` in front. -/
theorem mem_of_mem_renameClashes {fs : List (String × Json)} {kj : String × Json}
    (h : kj ∈ renameClashes fs) :
    ∃ name, (name, kj.2) ∈ fs ∧ (kj.1 = name ∨ kj.1 = "fields." ++ name) := by
  unfold renameClashes at h
  refine forall_mem_foldl (P := fun kj => ∃ name, (name, kj.2) ∈ fs ∧
      (kj.1 = name ∨ kj.1 = "fields." ++ name)) _ fs (fun x hx => ⟨x.1, hx, .inl rfl⟩)
    (fun acc key hkey hacc => ?_) kj h
  split
  · rename_i v hv
    intro x hx
    rcases List.mem_append.mp hx with hx | hx
    · exact hacc x (List.mem_filter.mp hx).1
    · rw [List.mem_singleton.mp hx]
      obtain ⟨l₁, l₂, hsplit, -⟩ := List.lookup_eq_some_iff.mp hv
      obtain ⟨name, hname, hrenamed⟩ := hacc (key, v) (by simp [hsplit])
      -- the keys renamed are none of them a renamed key, so a field is renamed at most once
      rcases hrenamed with rfl | hrenamed
      · exact ⟨key, hname, .inr rfl⟩
      · exact absurd hrenamed (clash_ne name key hkey)
  · exact hacc

/-- A written line is the JSON object of the entry's fields, the scrubbed message and the
level, each field rendered under its own name. -/
theorem line?_fields {e : Entry} {l : String} (h : e.line? = some l) :
    ∃ fs, l = (Json.dict (fs ++ [("msg", .str e.message.scrub), ("level", .text e.level.name)])).render
        true ∧
      ∀ kj ∈ fs, ∃ name val, (name, val) ∈ e.fields ∧ val.render name = some kj.2 ∧
        (kj.1 = name ∨ kj.1 = "fields." ++ name) := by
  simp only [Entry.line?, Option.bind_eq_bind, Option.pure_def, Option.bind_eq_some_iff,
    Option.some.injEq] at h
  obtain ⟨fields, hm, h⟩ := h
  refine ⟨renameClashes fields, h.symm, fun kj hkj => ?_⟩
  obtain ⟨name, hname, hkey⟩ := mem_of_mem_renameClashes hkj
  obtain ⟨⟨k, v⟩, hkv, hr⟩ := mem_of_mapM_eq_some hm _ hname
  obtain ⟨j, hj, hkj'⟩ := Option.map_eq_some_iff.mp hr
  obtain ⟨rfl, rfl⟩ := Prod.mk.inj hkj'
  exact ⟨k, v, mem_of_mem_dedupe hkv, hj, hkey⟩

/-! ## Masking in a log line -/

/-- A log line shows no sensitive value it can find in clear. Text and textual values under a
sensitive name are masked whole; other text and the `error` field are scrubbed; a line holds the
scrubbed message and rendered fields; and the scrub hides every token its passes reach. -/
theorem log_hides_sensitive_values (name : String) (u tok w : Bytes) :
    (name ∈ sensitiveNames → (∀ s, Value.render name (.text s) = some (.str (Bytes.mask s))) ∧
      ∀ s, Value.render name (.shown s) = some (.str (Bytes.mask (Bytes.ofString s)))) ∧
    (name ∉ sensitiveNames → ∀ s, Value.render name (.text s) = some (.str (Bytes.scrub s))) ∧
    (∀ s, Value.render "error" (.failure s) = some (.str (Bytes.scrub s))) ∧
    (∀ (e : Entry) l, e.line? = some l →
      ∃ fs, l = (Json.dict (fs ++ [("msg", .str e.message.scrub), ("level", .text e.level.name)])).render
          true ∧
        ∀ kj ∈ fs, ∃ name val, (name, val) ∈ e.fields ∧ val.render name = some kj.2 ∧
          (kj.1 = name ∨ kj.1 = "fields." ++ name)) ∧
    ∀ k (hk : k < patterns.length) (L pre v post : List Piece),
      pieces tok = L ++ pre ++ v ++ post →
      LeadReads patterns[k].folded patterns[k].lead L →
      patterns[k].shape.Spans pre v post (pieces w).head? →
      (∀ i (hi : i < k),
        Clear patterns[i] (afterPasses i (u ++ tok ++ w)) u.length (u.length + tok.length)) →
      Clear patterns[k] (afterPasses k (u ++ tok ++ w)) u.length u.length →
      ∀ t, (Bytes.mask (ofPieces v))[t]? = some star →
        (Bytes.scrub (u ++ tok ++ w))[u.length + (ofPieces (L ++ pre)).length + t]? = some star := by
  refine ⟨fun hname => ⟨fun s => ?_, fun s => ?_⟩, fun hname s => ?_, fun s => rfl,
    fun e l h => line?_fields h, fun k hk L pre v post htok hlead hspans hearlier hsame t ht =>
      scrub_hides_reached_token hk htok hlead hspans hearlier hsame ht⟩
  · simp [Value.render, hname]
  · simp [Value.render, hname]
  · simp [Value.render, hname]

/-- Two identifiers on one line: in `accountNumber=ACC-1234 transactionId=TX-0042 ✓`, the pass
for account numbers masks the first and ends before the second, which its own pass then masks. -/
theorem log_hides_sensitive_values_of_two_ids :
    let u := Bytes.ofString "accountNumber=ACC-1234 "
    let tok := Bytes.ofString "transactionId=TX-0042"
    let w := Bytes.ofString " ✓"
    let L := pieces (Bytes.ofString "transactionId=")
    let v := pieces (Bytes.ofString "TX-0042")
    pieces tok = L ++ [] ++ v ++ [] ∧
      LeadReads (patterns.get ⟨5, by decide⟩).folded (patterns.get ⟨5, by decide⟩).lead L ∧
      (patterns.get ⟨5, by decide⟩).shape.Spans [] v [] (pieces w).head? ∧
      (∀ i (hi : i < 5), Clear (patterns.get ⟨i, Nat.lt_trans hi (by decide)⟩)
        (afterPasses i (u ++ tok ++ w)) u.length (u.length + tok.length)) ∧
      Clear (patterns.get ⟨5, by decide⟩) (afterPasses 5 (u ++ tok ++ w)) u.length u.length ∧
      (Bytes.mask (ofPieces v))[3]? = some star ∧
      (Bytes.scrub (u ++ tok ++ w))[u.length + (ofPieces (L ++ [])).length + 3]? = some star := by
  intro u tok w L v
  have htok : pieces tok = L ++ [] ++ v ++ [] := by decide +kernel
  have hlead : LeadReads (patterns.get ⟨5, by decide⟩).folded (patterns.get ⟨5, by decide⟩).lead L := by
    decide +kernel
  have hspans : (patterns.get ⟨5, by decide⟩).shape.Spans [] v [] (pieces w).head? := by
    refine ⟨rfl, rfl, ?_, ?_, ?_⟩ <;> decide +kernel
  have hearlier : ∀ i (hi : i < 5), Clear (patterns.get ⟨i, Nat.lt_trans hi (by decide)⟩)
      (afterPasses i (u ++ tok ++ w)) u.length (u.length + tok.length) := by
    decide +kernel
  have hsame : Clear (patterns.get ⟨5, by decide⟩) (afterPasses 5 (u ++ tok ++ w)) u.length
      u.length := by
    decide +kernel
  have hstar : (Bytes.mask (ofPieces v))[3]? = some star := by decide +kernel
  exact ⟨htok, hlead, hspans, hearlier, hsame, hstar,
    (log_hides_sensitive_values "transaction_id" u tok w).2.2.2.2 5 (by decide) L [] v [] htok hlead
      hspans hearlier hsame 3 hstar⟩

end Ledger.Log

namespace Ledger.Mask

open Bytes

/-- In `/api/accounts/transactions/<id>`, the pass for `/accounts/` masks the segment
`transactions` first, so the last pass finds no lead and the identifier stays in clear. -/
theorem scrub_leaves_id_after_masked_segment :
    matchAt (patterns.get ⟨7, by decide⟩)
        (pieces (Bytes.ofString "/transactions/0f8fad5b-d9cb-469f-a165-70867728950e")) =
      some ⟨pieces (Bytes.ofString "/transactions/"),
        pieces (Bytes.ofString "0f8fad5b-d9cb-469f-a165-70867728950e"), []⟩ ∧
    Bytes.scrub (Bytes.ofString
        "/api/accounts/transactions/0f8fad5b-d9cb-469f-a165-70867728950e") =
      Bytes.ofString "/api/accounts/tran****ions/0f8fad5b-d9cb-469f-a165-70867728950e" := by
  decide +kernel

end Ledger.Mask
