import Mathlib
import Ledger.Proofs.Utf8Reading
import Ledger.Mask
/-!
# What a mask keeps

`Bytes.mask` keeps the length of a value and its margins (`mask_keeps_length_and_margins`).
Cuts between characters keep a text well-formed; a cut inside a character breaks it, as the
mask of `€` shows (`mask_splits_euro_sign`).
-/

namespace Ledger.Bytes

/-! ## Character boundaries -/

/-- Offset `k` of the bytes of `s` falls between two of its characters (or at an end). -/
def IsCharBoundary (s : String) (k : Nat) : Prop :=
  ∃ i, (ofString (String.ofList (s.toList.take i))).length = k

/-- The byte offsets at which `mask` cuts a value: none when it keeps the value whole or
hides all of it, the middle for a value of up to eight bytes, and four bytes in from each
end for a longer one. -/
def maskCuts (v : Bytes) : List Nat :=
  if v.isBlank || decide (v.length < 3) then []
  else if v.length ≤ 8 then [v.length / 2] else [4, v.length - 4]

theorem ofString_ofList_append (cs ds : List Char) :
    ofString (String.ofList (cs ++ ds)) = ofString (String.ofList cs) ++ ofString (String.ofList ds) := by
  simp only [ofString_eq_flatMap, String.toList_ofList, List.flatMap_append]

@[simp]
theorem ofString_empty : ofString "" = [] := by
  simp [ofString_eq_flatMap]

/-- The bytes of a string are those of its first `i` characters followed by those of the
rest. -/
theorem ofString_take_append_drop (s : String) (i : Nat) :
    ofString s = ofString (String.ofList (s.toList.take i)) ++
      ofString (String.ofList (s.toList.drop i)) := by
  rw [← ofString_ofList_append, List.take_append_drop, String.ofList_toList]

/-- Cutting the bytes of a string between two characters cuts its characters. -/
theorem IsCharBoundary.take_drop {s : String} {k : Nat} (h : IsCharBoundary s k) :
    ∃ i, (ofString s).take k = ofString (String.ofList (s.toList.take i)) ∧
      (ofString s).drop k = ofString (String.ofList (s.toList.drop i)) := by
  obtain ⟨i, hi⟩ := h
  refine ⟨i, ?_, ?_⟩ <;> rw [ofString_take_append_drop s i]
  · exact List.take_left' hi
  · exact List.drop_left' hi

/-- The bytes of a string are well-formed: every piece read from them is a character. -/
theorem isValid_ofString (s : String) : (ofString s).isValid = true := by
  simp [isValid, pieces_ofString, Piece.isStray]

/-- A run of stars is the bytes of a run of `*` characters. -/
theorem ofString_stars (r : Nat) :
    ofString (String.ofList (List.replicate r '*')) = List.replicate r star := by
  rw [ofString_eq_flatMap, String.toList_ofList]
  induction r with
  | zero => rfl
  | succ r ih =>
    rw [List.replicate_succ, List.flatMap_cons, ih, List.replicate_succ]
    rfl

/-! ## The mask -/

theorem length_mask (v : Bytes) : (mask v).length = v.length := by
  unfold mask
  dsimp only
  split_ifs <;> simp <;> omega

/-- Where every cut falls between two characters, the mask of a well-formed text is the
bytes of a text: a prefix of its characters, stars, and a suffix of them. -/
theorem mask_ofString_of_boundaries {s : String}
    (hcuts : ∀ k ∈ maskCuts (ofString s), IsCharBoundary s k) :
    ∃ i j r, mask (ofString s) =
      ofString (String.ofList (s.toList.take i ++ List.replicate r '*' ++ s.toList.drop j)) := by
  unfold mask
  dsimp only
  simp only [ofString_ofList_append, ofString_stars]
  by_cases hblank : (ofString s).isBlank = true
  · -- kept whole: every character before the stars, no star, nothing after
    rw [if_pos hblank]
    exact ⟨s.toList.length, s.toList.length, 0, by simp⟩
  rw [if_neg hblank]
  by_cases hshort : (ofString s).length < 3
  · rw [if_pos hshort]
    exact ⟨0, s.toList.length, (ofString s).length, by simp⟩
  rw [if_neg hshort]
  by_cases hmiddle : (ofString s).length ≤ 8
  · -- one cut, in the middle
    rw [if_pos hmiddle]
    obtain ⟨i, htake, -⟩ :=
      (hcuts ((ofString s).length / 2) (by simp [maskCuts, hblank, hshort, hmiddle])).take_drop
    exact ⟨i, s.toList.length, (ofString s).length - (ofString s).length / 2, by simp [htake]⟩
  · -- two cuts, four bytes in from each end
    rw [if_neg hmiddle]
    obtain ⟨i, htake, -⟩ := (hcuts 4 (by simp [maskCuts, hblank, hshort, hmiddle])).take_drop
    obtain ⟨j, -, hdrop⟩ :=
      (hcuts ((ofString s).length - 4) (by simp [maskCuts, hblank, hshort, hmiddle])).take_drop
    exact ⟨i, j, _, by rw [htake, hdrop]⟩

/-- A mask keeps the value's length and shows only its margins; with cuts between characters
a masked text reads as a prefix of its characters, stars and a suffix. -/
theorem mask_keeps_length_and_margins (v : Bytes) :
    (mask v).length = v.length ∧
    (v.isBlank = true → mask v = v) ∧
    (v.isBlank = false →
      (v.length < 3 → mask v = List.replicate v.length star) ∧
      (3 ≤ v.length → v.length ≤ 8 →
        mask v = v.take (v.length / 2) ++ List.replicate (v.length - v.length / 2) star) ∧
      (8 < v.length →
        mask v = v.take 4 ++ List.replicate (v.length - 8) star ++ v.drop (v.length - 4))) ∧
    ∀ s : String, v = ofString s → (∀ k ∈ maskCuts v, IsCharBoundary s k) →
      (mask v).isValid = true ∧ ∃ i j r,
        (mask v).toText = String.ofList (s.toList.take i ++ List.replicate r '*' ++ s.toList.drop j) := by
  refine ⟨length_mask v, fun hblank => by simp [mask, hblank], fun hblank => ?_, ?_⟩
  · refine ⟨fun hshort => by simp [mask, hblank, hshort], fun hlo hhi => ?_, fun hlong => ?_⟩
    · simp [mask, hblank, hhi, show ¬v.length < 3 by omega]
    · simp [mask, hblank, show ¬v.length < 3 by omega, show ¬v.length ≤ 8 by omega]
  · rintro s rfl hcuts
    obtain ⟨i, j, r, hmask⟩ := mask_ofString_of_boundaries hcuts
    exact ⟨hmask ▸ isValid_ofString _, i, j, r, by rw [hmask, toText_ofString]⟩

/-- An account number of twelve ASCII bytes keeps its first and last four, and stays
well-formed. -/
theorem mask_keeps_margins_of_account_number :
    let v := ofString "ACC-12345678"
    v.isBlank = false ∧ 8 < v.length ∧ (∀ k ∈ maskCuts v, IsCharBoundary "ACC-12345678" k) ∧
      mask v = v.take 4 ++ List.replicate (v.length - 8) star ++ v.drop (v.length - 4) ∧
      (mask v).isValid = true := by
  intro v
  have hblank : v.isBlank = false := by decide +kernel
  have hlong : 8 < v.length := by decide +kernel
  -- the cuts are at bytes 4 and 8, after the fourth and the eighth characters
  have hcuts : ∀ k ∈ maskCuts v, IsCharBoundary "ACC-12345678" k := by
    have hfour : IsCharBoundary "ACC-12345678" 4 := ⟨4, by decide +kernel⟩
    have height : IsCharBoundary "ACC-12345678" 8 := ⟨8, by decide +kernel⟩
    have hcuts : maskCuts v = [4, 8] := by decide +kernel
    simp [hcuts, hfour, height]
  have hmask := mask_keeps_length_and_margins v
  exact ⟨hblank, hlong, hcuts, (hmask.2.2.1 hblank).2.2 hlong,
    (hmask.2.2.2 "ACC-12345678" rfl hcuts).1⟩

/-- The euro sign is three well-formed bytes; its mask keeps the first of them and two stars,
which is no longer well-formed. -/
theorem mask_splits_euro_sign :
    ofString "€" = [0xE2, 0x82, 0xAC] ∧ (ofString "€").isValid = true ∧
      mask (ofString "€") = [0xE2, star, star] ∧ (mask (ofString "€")).isValid = false := by
  have hbytes : ofString "€" = [0xE2, 0x82, 0xAC] := by decide +kernel
  refine ⟨hbytes, isValid_ofString "€", ?_, ?_⟩ <;> rw [hbytes] <;> decide +kernel

end Ledger.Bytes
