import Mathlib
import Ledger.Mask
import Ledger.Proofs.MaskMargins
/-!
# One pass of the scrub

A pass of `Mask.scrubWith` reads a text left to right and writes each match it makes with the
value masked. `hitsFrom` lists those matches with the byte each starts at. A pass writes as
many bytes as it reads, changes no byte outside the values it masks, and makes every match that
no earlier match of the pass runs into (`mem_hitsFrom_of_clear`).
-/

namespace Ledger.Mask

open Bytes

/-! ## What a match covers -/

theorem bytes_ne_nil (q : Piece) : q.bytes ≠ [] := by
  cases q with
  | char c =>
    simp only [Piece.bytes, encodeChar]
    split_ifs <;> simp
  | stray b => simp [Piece.bytes]

theorem length_pieces_le_ofPieces (ps : List Piece) : ps.length ≤ (ofPieces ps).length := by
  induction ps with
  | nil => simp
  | cons q qs ih =>
    have := List.length_pos_iff.mpr (bytes_ne_nil q)
    simp only [ofPieces, List.map_cons, List.flatten_cons, List.length_append, List.length_cons] at ih ⊢
    omega

/-- A lead that matches is a prefix of the text as long as the lead, and the match leaves the
rest. -/
theorem matchLead_exact {folded : Bool} {lead : List Char} {ps rest : List Piece}
    (h : matchLead folded lead ps = some rest) : lead.length ≤ ps.length ∧ rest = ps.drop lead.length := by
  induction lead generalizing ps with
  | nil => simpa [matchLead] using h.symm
  | cons c cs ih =>
    match ps with
    | [] => simp [matchLead] at h
    | .char d :: ps =>
      simp only [matchLead] at h
      split at h
      · simpa using ih h
      · cases h
    | .stray b :: ps => simp [matchLead] at h

/-- The pieces a match covers. -/
def Found.pieces (f : Found) : List Piece := f.before ++ f.value ++ f.after

/-- What a shape matches: the pieces it keeps before the value, after the lead, then the value
and the pieces it keeps after it, at the front of the text. -/
theorem matchShape_exact {lead : List Piece} {shape : Shape} {ps : List Piece} {f : Found}
    (h : matchShape lead shape ps = some f) :
    ∃ pre rest, f.before = lead ++ pre ∧ ps = pre ++ f.value ++ f.after ++ rest := by
  cases shape with
  | quoted =>
    unfold matchShape at h
    dsimp only at h
    split at h
    next colon r2 hdrop1 =>
      split at h
      next =>
        split at h
        next q r3 hdrop2 =>
          split at h
          next =>
            split at h
            next q2 r4 hdrop3 =>
              cases h
              have e1 := List.takeWhile_append_dropWhile (p := isBlankPiece) (l := ps)
              have e2 := List.takeWhile_append_dropWhile (p := isBlankPiece) (l := r2)
              have e3 := List.takeWhile_append_dropWhile (p := fun p => !isChar '"' p) (l := r3)
              rw [hdrop1] at e1
              rw [hdrop2] at e2
              rw [hdrop3] at e3
              refine ⟨ps.takeWhile isBlankPiece ++ [colon] ++ r2.takeWhile isBlankPiece ++ [q], r4,
                by simp, ?_⟩
              generalize List.takeWhile isBlankPiece ps = b1 at e1 ⊢
              generalize List.takeWhile isBlankPiece r2 = b2 at e2 ⊢
              generalize List.takeWhile (fun p => !isChar '"' p) r3 = v at e3 ⊢
              subst e1 e2 e3
              simp
            next => simp at h
          next => simp at h
        next => simp at h
      next => simp at h
    next => simp at h
  | header =>
    unfold matchShape at h
    dsimp only at h
    -- with or without a colon first, the text is the colon part and what follows it
    obtain ⟨c, r1, hps, rfl⟩ : ∃ c r1, ps = c ++ r1 ∧
        f = ⟨lead ++ c ++ r1.takeWhile isBlankPiece,
          (r1.dropWhile isBlankPiece).takeWhile inHeaderValue, []⟩ := by
      split at h
      · rename_i x r
        split at h <;> cases h
        · exact ⟨[x], r, rfl, rfl⟩
        · exact ⟨[], x :: r, rfl, rfl⟩
      · cases h
        exact ⟨[], [], rfl, rfl⟩
    refine ⟨c ++ r1.takeWhile isBlankPiece, (r1.dropWhile isBlankPiece).dropWhile inHeaderValue,
      by simp, ?_⟩
    simp only [hps, List.append_nil, List.append_assoc, List.takeWhile_append_dropWhile]
  | token =>
    unfold matchShape at h
    dsimp only at h
    split at h
    · cases h
    · cases h
      exact ⟨[], ps.dropWhile inToken, by simp, by simp⟩
  | segment =>
    unfold matchShape at h
    dsimp only at h
    split at h
    · cases h
    · cases h
      exact ⟨[], ps.dropWhile inSegment, by simp, by simp⟩

/-- What a shape matches is a stretch of the text after the lead. -/
theorem matchShape_cover {lead : List Piece} {shape : Shape} {ps : List Piece} {f : Found}
    (h : matchShape lead shape ps = some f) : ∃ rest, lead ++ ps = f.pieces ++ rest := by
  obtain ⟨pre, rest, hbefore, hps⟩ := matchShape_exact h
  exact ⟨rest, by simp [Found.pieces, hbefore, hps]⟩

/-- A match covers the pieces in front of the text, with the rest of the text after them. -/
theorem matchAt_cover {p : Pattern} {ps : List Piece} {f : Found} (h : matchAt p ps = some f) :
    ∃ rest, ps = f.pieces ++ rest := by
  unfold matchAt at h
  split at h
  · rename_i rest hlead
    obtain ⟨r, hr⟩ := matchShape_cover h
    rw [(matchLead_exact hlead).2, List.take_append_drop] at hr
    exact ⟨r, hr⟩
  · cases h

/-- A match keeps at least the lead before its value. -/
theorem matchAt_lead_le {q : Pattern} {ps : List Piece} {f : Found} (h : matchAt q ps = some f) :
    q.lead.length ≤ f.before.length := by
  unfold matchAt at h
  split at h
  · rename_i rest hlead
    have hlen := (matchLead_exact hlead).1
    obtain ⟨pre, -, hbefore, -⟩ := matchShape_exact h
    rw [hbefore, List.length_append, List.length_take]
    omega
  · simp at h

/-! ## One pass, match by match -/

/-- The bytes a pass writes for the pieces, from a point where it passes over no match. -/
def written (p : Pattern) (ps : List Piece) : Bytes := (scrubWith p ps 0 []).reverse.flatten

/-- The matches the pass of a pattern makes over the pieces, starting at byte `pos` with `skip`
pieces still covered by the last match: each with the byte where it starts. -/
def hitsFrom (p : Pattern) : List Piece → Nat → Nat → List (Nat × Found)
  | [], _, _ => []
  | q :: qs, skip + 1, pos => hitsFrom p qs skip (pos + q.bytes.length)
  | q :: qs, 0, pos =>
    match matchAt p (q :: qs) with
    | some f => (pos, f) :: hitsFrom p qs (f.size - 1) (pos + q.bytes.length)
    | none => hitsFrom p qs 0 (pos + q.bytes.length)

/-- The matches the pass of a pattern makes in a text, each with the byte where it starts. -/
def hits (p : Pattern) (bs : Bytes) : List (Nat × Found) := hitsFrom p (pieces bs) 0 0

/-- The number of bytes a match covers. -/
def Found.width (f : Found) : Nat := (ofPieces f.pieces).length

/-- The number of bytes a match keeps before its value. -/
def Found.lead (f : Found) : Nat := (ofPieces f.before).length

theorem ofPieces_append (xs ys : List Piece) : ofPieces (xs ++ ys) = ofPieces xs ++ ofPieces ys := by
  simp [ofPieces]

theorem ofPieces_cons (q : Piece) (qs : List Piece) : ofPieces (q :: qs) = q.bytes ++ ofPieces qs := by
  simp [ofPieces]

theorem scrubPattern_eq_written (p : Pattern) (bs : Bytes) :
    scrubPattern p bs = written p (pieces bs) := rfl

theorem scrubWith_out (p : Pattern) (ps : List Piece) (skip : Nat) (out : List Bytes) :
    scrubWith p ps skip out = scrubWith p ps skip [] ++ out := by
  induction ps generalizing skip out with
  | nil => rfl
  | cons q qs ih =>
    cases skip with
    | succ s => exact ih s out
    | zero =>
      simp only [scrubWith]
      split
      · rw [ih _ (_ :: out), ih _ [_]]
        simp
      · rw [ih _ (_ :: out), ih _ [_]]
        simp

/-- Pieces covered by the last match are passed over. -/
theorem scrubWith_skip (p : Pattern) (xs ys : List Piece) (out : List Bytes) :
    scrubWith p (xs ++ ys) xs.length out = scrubWith p ys 0 out := by
  induction xs with
  | nil => rfl
  | cons x xs ih => exact ih

theorem size_eq_length (f : Found) : f.size = f.pieces.length := by
  simp [Found.size, Found.pieces, Nat.add_assoc]

/-- A match keeps its lead, so it covers some piece. -/
theorem pieces_ne_nil {p : Pattern} (hlead : p.lead ≠ []) {ps : List Piece} {f : Found}
    (h : matchAt p ps = some f) : f.pieces ≠ [] := by
  have hle := matchAt_lead_le h
  have hpos := List.length_pos_iff.mpr hlead
  intro hnil
  have hlen : f.before.length ≤ f.pieces.length := by simp [Found.pieces]
  rw [hnil, List.length_nil] at hlen
  omega

/-- Where a match starts, the pass writes its replacement and goes on after it. -/
theorem written_hit {p : Pattern} (hlead : p.lead ≠ []) {ps rest : List Piece} {f : Found}
    (h : matchAt p ps = some f) (hps : ps = f.pieces ++ rest) :
    written p ps = f.replacement ++ written p rest := by
  obtain ⟨q, qs, hq⟩ := List.exists_cons_of_ne_nil (pieces_ne_nil hlead h)
  have hskip : f.size - 1 = qs.length := by simp [size_eq_length, hq]
  rw [hq, List.cons_append] at hps
  subst hps
  simp only [written, scrubWith, h, hskip]
  rw [scrubWith_out, scrubWith_skip]
  simp

/-- Where no match starts, the pass writes the piece as it is. -/
theorem written_miss {p : Pattern} {q : Piece} {qs : List Piece} (h : matchAt p (q :: qs) = none) :
    written p (q :: qs) = q.bytes ++ written p qs := by
  simp only [written, scrubWith, h]
  rw [scrubWith_out]
  simp

theorem hitsFrom_skip (p : Pattern) (xs ys : List Piece) (pos : Nat) :
    hitsFrom p (xs ++ ys) xs.length pos = hitsFrom p ys 0 (pos + (ofPieces xs).length) := by
  induction xs generalizing pos with
  | nil => simp [ofPieces]
  | cons x xs ih =>
    simp only [List.cons_append, List.length_cons, hitsFrom, ih, ofPieces_cons, List.length_append]
    rw [Nat.add_assoc]

theorem hitsFrom_hit {p : Pattern} (hlead : p.lead ≠ []) {ps rest : List Piece} {f : Found}
    (h : matchAt p ps = some f) (hps : ps = f.pieces ++ rest) (pos : Nat) :
    hitsFrom p ps 0 pos = (pos, f) :: hitsFrom p rest 0 (pos + f.width) := by
  obtain ⟨q, qs, hq⟩ := List.exists_cons_of_ne_nil (pieces_ne_nil hlead h)
  have hskip : f.size - 1 = qs.length := by simp [size_eq_length, hq]
  rw [hq, List.cons_append] at hps
  subst hps
  simp only [hitsFrom, h, hskip, hitsFrom_skip, Found.width, hq, ofPieces_cons, List.length_append,
    Nat.add_assoc]

theorem hitsFrom_miss {p : Pattern} {q : Piece} {qs : List Piece} (h : matchAt p (q :: qs) = none)
    (pos : Nat) : hitsFrom p (q :: qs) 0 pos = hitsFrom p qs 0 (pos + q.bytes.length) := by
  simp only [hitsFrom, h]

/-- Induction along a pass: the text is empty, starts with a match, or starts with a piece no
match starts at. -/
theorem scan_induction (p : Pattern) (hlead : p.lead ≠ []) {motive : List Piece → Prop}
    (nil : motive [])
    (hit : ∀ ps f rest, matchAt p ps = some f → ps = f.pieces ++ rest → motive rest → motive ps)
    (miss : ∀ q qs, matchAt p (q :: qs) = none → motive qs → motive (q :: qs))
    (ps : List Piece) : motive ps := by
  induction hn : ps.length using Nat.strong_induction_on generalizing ps with
  | _ n ih =>
    cases ps with
    | nil => exact nil
    | cons q qs =>
      cases hm : matchAt p (q :: qs) with
      | none => exact miss q qs hm (ih qs.length (by simp [← hn]) qs rfl)
      | some f =>
        obtain ⟨rest, hrest⟩ := matchAt_cover hm
        have hlt : rest.length < n := by
          have := List.length_pos_iff.mpr (pieces_ne_nil hlead hm)
          have hlen := congrArg List.length hrest
          simp only [List.length_append] at hlen
          omega
        exact hit _ f rest hm hrest (ih rest.length hlt rest rfl)

/-! ## What a mask changes -/

/-- The mask of a value either keeps it (a blank value) or replaces a non-empty middle part
of it by stars. -/
theorem mask_eq_or_stars (v : Bytes) :
    mask v = v ∨ ∃ A M B r, 0 < r ∧ v = A ++ M ++ B ∧ mask v = A ++ List.replicate r star ++ B := by
  unfold mask
  dsimp only
  split
  · exact .inl rfl
  · rename_i hblank
    have hne : v ≠ [] := by
      rintro rfl
      simp [isBlank, pieces_nil] at hblank
    have hpos : 0 < v.length := List.length_pos_iff.mpr hne
    refine .inr ?_
    split
    · exact ⟨[], v, [], v.length, hpos, by simp, by simp⟩
    · split
      · exact ⟨v.take (v.length / 2), v.drop (v.length / 2), [], v.length - v.length / 2,
          by omega, by simp, by simp⟩
      · refine ⟨v.take 4, (v.drop 4).take (v.length - 8), v.drop (v.length - 4), v.length - 8,
          by omega, ?_, rfl⟩
        have htail : v.drop (v.length - 4) = (v.drop 4).drop (v.length - 8) := by
          rw [List.drop_drop]
          congr 1
          omega
        rw [htail, List.append_assoc, List.take_append_drop, List.take_append_drop]

/-- Each byte of a mask is the value's byte at that place or a star. -/
theorem mask_getElem? (v : Bytes) (t : Nat) : (mask v)[t]? = v[t]? ∨ (mask v)[t]? = some star := by
  rcases mask_eq_or_stars v with hkeep | ⟨A, M, B, r, -, rfl, hmask⟩
  · exact .inl (by rw [hkeep])
  have hr : M.length = r := by
    have := length_mask (A ++ M ++ B)
    rw [hmask] at this
    simp at this
    omega
  rw [hmask]
  by_cases hA : t < A.length
  · left
    rw [List.append_assoc, List.append_assoc, List.getElem?_append_left hA,
      List.getElem?_append_left hA]
  by_cases hM : t < A.length + r
  · right
    rw [List.append_assoc, List.getElem?_append_right (by omega),
      List.getElem?_append_left (by simp; omega), List.getElem?_replicate]
    simp
    omega
  · left
    rw [List.getElem?_append_right (by simp; omega), List.getElem?_append_right (by simp; omega)]
    simp only [List.length_append, List.length_replicate]
    rw [hr]

theorem length_replacement (f : Found) : f.replacement.length = f.width := by
  simp [Found.replacement, Found.width, Found.pieces, ofPieces_append, length_mask]

/-- Outside its value, a replacement is the match as it was. -/
theorem replacement_getElem?_of_not_value (f : Found) {j : Nat}
    (hj : j < f.lead ∨ f.lead + (ofPieces f.value).length ≤ j) :
    f.replacement[j]? = (ofPieces f.pieces)[j]? := by
  simp only [Found.replacement, Found.pieces, ofPieces_append]
  rcases hj with hj | hj
  · rw [List.append_assoc, List.append_assoc, List.getElem?_append_left hj,
      List.getElem?_append_left hj]
  · rw [List.getElem?_append_right (by simp [length_mask, Found.lead] at hj ⊢; omega),
      List.getElem?_append_right (by simp [Found.lead] at hj ⊢; omega)]
    simp [length_mask]

/-- Within its value, a replacement is the mask of the value. -/
theorem replacement_getElem?_value (f : Found) {t : Nat} (ht : t < (ofPieces f.value).length) :
    f.replacement[f.lead + t]? = (mask (ofPieces f.value))[t]? := by
  simp only [Found.replacement, Found.lead]
  rw [List.append_assoc, List.getElem?_append_right (by omega), List.getElem?_append_left
    (by simp [length_mask]; omega)]
  simp

/-- Each byte of a replacement is the match's byte at that place or a star. -/
theorem replacement_getElem? (f : Found) (j : Nat) :
    f.replacement[j]? = (ofPieces f.pieces)[j]? ∨ f.replacement[j]? = some star := by
  by_cases hv : f.lead ≤ j ∧ j < f.lead + (ofPieces f.value).length
  · obtain ⟨t, rfl⟩ : ∃ t, j = f.lead + t := ⟨j - f.lead, by omega⟩
    rw [replacement_getElem?_value f (by omega)]
    rcases mask_getElem? (ofPieces f.value) t with h | h
    · left
      rw [h, Found.pieces, ofPieces_append, ofPieces_append, List.append_assoc,
        List.getElem?_append_right (by simp [Found.lead]),
        List.getElem?_append_left (by simp [Found.lead]; omega)]
      simp [Found.lead]
    · exact .inr h
  · exact .inl (replacement_getElem?_of_not_value f (by omega))

/-! ## What one pass writes -/

section Pass

variable {p : Pattern} (hlead : p.lead ≠ [])
include hlead

/-- A pass writes as many bytes as it reads. -/
theorem length_written (ps : List Piece) : (written p ps).length = (ofPieces ps).length := by
  induction ps using scan_induction p hlead with
  | nil => rfl
  | hit ps f rest hm hps ih =>
    rw [written_hit hlead hm hps, hps, ofPieces_append, List.length_append, List.length_append, ih,
      length_replacement, Found.width]
  | miss q qs hm ih => rw [written_miss hm, ofPieces_cons, List.length_append, List.length_append, ih]

/-- Each byte a pass writes is the byte it read at that place or a star. -/
theorem written_getElem? (ps : List Piece) (j : Nat) :
    (written p ps)[j]? = (ofPieces ps)[j]? ∨ (written p ps)[j]? = some star := by
  induction ps using scan_induction p hlead generalizing j with
  | nil => exact .inl rfl
  | hit ps f rest hm hps ih =>
    rw [written_hit hlead hm hps, hps, ofPieces_append]
    by_cases hj : j < f.width
    · rw [List.getElem?_append_left (by rw [length_replacement]; exact hj),
        List.getElem?_append_left hj]
      exact replacement_getElem? f j
    · rw [List.getElem?_append_right (by rw [length_replacement]; omega),
        List.getElem?_append_right (by rw [← Found.width]; omega), length_replacement, Found.width]
      exact ih _
  | miss q qs hm ih =>
    rw [written_miss hm, ofPieces_cons]
    by_cases hj : j < q.bytes.length
    · exact .inl (by rw [List.getElem?_append_left hj, List.getElem?_append_left hj])
    · rw [List.getElem?_append_right (by omega), List.getElem?_append_right (by omega)]
      exact ih _

/-- A pass changes no byte outside the values of the matches it makes. -/
theorem written_getElem?_of_not_value (ps : List Piece) (pos j : Nat)
    (h : ∀ x ∈ hitsFrom p ps 0 pos,
      j + pos < x.1 + x.2.lead ∨ x.1 + x.2.lead + (ofPieces x.2.value).length ≤ j + pos) :
    (written p ps)[j]? = (ofPieces ps)[j]? := by
  induction ps using scan_induction p hlead generalizing pos j with
  | nil => rfl
  | hit ps f rest hm hps ih =>
    rw [hitsFrom_hit hlead hm hps] at h
    rw [written_hit hlead hm hps, hps, ofPieces_append]
    by_cases hj : j < f.width
    · rw [List.getElem?_append_left (by rw [length_replacement]; exact hj),
        List.getElem?_append_left hj]
      have hf := h (pos, f) List.mem_cons_self
      dsimp only at hf
      exact replacement_getElem?_of_not_value f (by omega)
    · rw [List.getElem?_append_right (by rw [length_replacement]; omega),
        List.getElem?_append_right (by rw [← Found.width]; omega), length_replacement, ← Found.width]
      exact ih (pos + f.width) (j - f.width) fun x hx => by
        have := h x (List.mem_cons_of_mem _ hx)
        omega
  | miss q qs hm ih =>
    rw [hitsFrom_miss hm] at h
    rw [written_miss hm, ofPieces_cons]
    by_cases hj : j < q.bytes.length
    · rw [List.getElem?_append_left hj, List.getElem?_append_left hj]
    · rw [List.getElem?_append_right (by omega), List.getElem?_append_right (by omega)]
      exact ih (pos + q.bytes.length) _ fun x hx => by
        have := h x hx
        omega

/-- At each match it makes, a pass writes the mask of the match's value in place of the value. -/
theorem written_getElem?_value (ps : List Piece) (pos : Nat) :
    ∀ x ∈ hitsFrom p ps 0 pos, pos ≤ x.1 ∧ ∀ t < (ofPieces x.2.value).length,
      (written p ps)[x.1 - pos + x.2.lead + t]? = (mask (ofPieces x.2.value))[t]? := by
  induction ps using scan_induction p hlead generalizing pos with
  | nil => intro x hx; cases hx
  | hit ps f rest hm hps ih =>
    rw [hitsFrom_hit hlead hm hps]
    rintro x (_ | ⟨_, hx⟩)
    · refine ⟨le_refl _, fun t ht => ?_⟩
      have hw : f.lead + t < f.width := by
        simp only [Found.lead, Found.width, Found.pieces, ofPieces_append, List.length_append] at ht ⊢
        omega
      rw [written_hit hlead hm hps, Nat.sub_self, Nat.zero_add,
        List.getElem?_append_left (by rw [length_replacement]; exact hw)]
      exact replacement_getElem?_value f ht
    · obtain ⟨hpos, hval⟩ := ih (pos + f.width) x hx
      refine ⟨by omega, fun t ht => ?_⟩
      rw [written_hit hlead hm hps, List.getElem?_append_right (by rw [length_replacement]; omega),
        length_replacement, ← hval t ht]
      congr 1
      omega
  | miss q qs hm ih =>
    rw [hitsFrom_miss hm]
    intro x hx
    obtain ⟨hpos, hval⟩ := ih (pos + q.bytes.length) x hx
    refine ⟨by omega, fun t ht => ?_⟩
    rw [written_miss hm, List.getElem?_append_right (by omega), ← hval t ht]
    congr 1
    omega

end Pass

/-- Every match a pass makes is a match of its pattern somewhere in the text. -/
theorem matchAt_of_mem_hitsFrom {p : Pattern} :
    ∀ {ps : List Piece} {skip pos : Nat} {x : Nat × Found}, x ∈ hitsFrom p ps skip pos →
      ∃ qs, matchAt p qs = some x.2
  | [], _, _, _, hx => by cases hx
  | q :: qs, skip + 1, pos, x, hx => @matchAt_of_mem_hitsFrom p qs _ _ x hx
  | q :: qs, 0, pos, x, hx => by
    simp only [hitsFrom] at hx
    split at hx
    · rename_i f hm
      rcases hx with _ | ⟨_, hx⟩
      · exact ⟨_, hm⟩
      · exact matchAt_of_mem_hitsFrom hx
    · exact matchAt_of_mem_hitsFrom hx

theorem ofPieces_eq_nil {ps : List Piece} : ofPieces ps = [] ↔ ps = [] := by
  cases ps with
  | nil => simp [ofPieces]
  | cons q qs => simp [ofPieces_cons, bytes_ne_nil q]

/-- A match the pass makes before a point and ending by it covers only pieces before the point. -/
theorem size_le_of_width_le {P T rest : List Piece} {g : Found}
    (hcover : P ++ T = g.pieces ++ rest) (hw : g.width ≤ (ofPieces P).length) :
    g.pieces.length ≤ P.length := by
  rcases List.append_eq_append_iff.mp hcover with ⟨a, hg, -⟩ | ⟨c, hP, -⟩
  · -- a match reaching past `P` covers bytes past it
    by_contra hbig
    have hne : a ≠ [] := by
      rintro rfl
      rw [List.append_nil] at hg
      exact hbig (hg ▸ le_refl _)
    have hlen : (ofPieces g.pieces).length = (ofPieces P).length + (ofPieces a).length := by
      rw [hg, ofPieces_append, List.length_append]
    have hpos : 0 < (ofPieces a).length :=
      List.length_pos_iff.mpr (fun h => hne (ofPieces_eq_nil.mp h))
    rw [Found.width] at hw
    omega
  · have := congrArg List.length hP
    simp at this
    omega

/-- The pass finds a match at a point it reaches freely: when no match it makes before the point
runs past it, the match there is one the pass makes. -/
theorem mem_hitsFrom_of_clear {p : Pattern} (hlead : p.lead ≠ []) {T : List Piece} {f : Found}
    (hT : matchAt p T = some f) (P : List Piece) :
    ∀ skip pos, skip ≤ P.length →
      (∀ x ∈ hitsFrom p (P ++ T) skip pos, x.1 < pos + (ofPieces P).length →
        x.1 + x.2.width ≤ pos + (ofPieces P).length) →
      (pos + (ofPieces P).length, f) ∈ hitsFrom p (P ++ T) skip pos := by
  induction P with
  | nil =>
    intro skip pos hskip _
    obtain rfl : skip = 0 := by simpa using hskip
    obtain ⟨rest, hrest⟩ := matchAt_cover hT
    obtain ⟨t, ts, ht⟩ := List.exists_cons_of_ne_nil (pieces_ne_nil hlead hT)
    rw [hrest, ht, List.nil_append, List.cons_append, hitsFrom, ← List.cons_append, ← ht, ← hrest,
      hT]
    simp [ofPieces]
  | cons q P ih =>
    intro skip pos hskip hclear
    have hq := List.length_pos_iff.mpr (bytes_ne_nil q)
    have hshift : pos + (ofPieces (q :: P)).length = pos + q.bytes.length + (ofPieces P).length := by
      rw [ofPieces_cons, List.length_append, Nat.add_assoc]
    rw [hshift] at hclear ⊢
    cases skip with
    | succ s =>
      simp only [List.cons_append, hitsFrom] at hclear ⊢
      exact ih s _ (by simp at hskip; omega) hclear
    | zero =>
      simp only [List.cons_append, hitsFrom] at hclear ⊢
      cases hm : matchAt p (q :: (P ++ T)) with
      | none =>
        rw [hm] at hclear
        exact ih 0 _ (Nat.zero_le _) hclear
      | some g =>
        rw [hm] at hclear
        -- the match made at `q` ends before the point, so the pass resumes before it
        have hg := hclear (pos, g) List.mem_cons_self (by dsimp only; omega)
        dsimp only at hg
        obtain ⟨rest, hrest⟩ := matchAt_cover hm
        have hsize := size_le_of_width_le (P := q :: P) (T := T)
          (by simpa using hrest) (by rw [ofPieces_cons, List.length_append]; omega)
        exact List.mem_cons_of_mem _ (ih _ _ (by rw [size_eq_length]; simp at hsize; omega)
          fun x hx => hclear x (List.mem_cons_of_mem _ hx))

end Ledger.Mask
