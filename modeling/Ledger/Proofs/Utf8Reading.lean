import Mathlib
import Ledger.Proofs.CanonicalBinding
/-!
# Reading UTF-8

`Bytes.next?` reads one piece from the front of a byte string. The encoding of a character
reads back as the character (`next?_utf8EncodeChar`), and a piece read gives back the bytes it
was read from (`next?_bytes`), so reading never loses a byte (`ofPieces_pieces`). A byte below
0x80 ends whatever came before it, so a text can be read in parts at such a byte.
-/

namespace Ledger.Bytes

/-! ## Bits of the encoding -/

/-- A value below `2 ^ k` fills the low bits left free by a shift of `k`. -/
theorem shiftLeft_or_of_lt {a b k : Nat} (hb : b < 2 ^ k) : (a <<< k) ||| b = a * 2 ^ k + b := by
  rw [← Nat.shiftLeft_add_eq_or_of_lt hb, Nat.shiftLeft_eq]

/-- A multiple of `2 ^ k` and a value below `2 ^ k` have no bit in common. -/
theorem or_eq_add_of_lt {m y k : Nat} (hm : m % 2 ^ k = 0) (hy : y < 2 ^ k) : m ||| y = m + y := by
  obtain ⟨q, rfl⟩ : ∃ q, m = q * 2 ^ k :=
    ⟨m / 2 ^ k, (Nat.div_mul_cancel (Nat.dvd_of_mod_eq_zero hm)).symm⟩
  rw [← Nat.shiftLeft_eq, shiftLeft_or_of_lt hy, Nat.shiftLeft_eq]

/-- A mask of `k` low bits keeps the remainder by `2 ^ k`. -/
theorem and_mask_eq_mod {m k : Nat} (hm : m = 2 ^ k - 1) (x : Nat) : x &&& m = x % 2 ^ k := by
  subst hm
  exact Nat.and_two_pow_sub_one_eq_mod x k

/-- Six bits below twelve bits below the top bits. -/
theorem pack_three {a b c : Nat} (hb : b < 64) (hc : c < 64) :
    (a <<< 12 ||| b <<< 6 ||| c) = a * 4096 + b * 64 + c := by
  have h : a <<< 12 ||| b <<< 6 = ((a <<< 6) ||| b) <<< 6 := by
    rw [Nat.shiftLeft_or_distrib, ← Nat.shiftLeft_add]
  rw [h, shiftLeft_or_of_lt (show c < 2 ^ 6 by omega), shiftLeft_or_of_lt (show b < 2 ^ 6 by omega)]
  omega

/-- Three groups of six bits below the top bits. -/
theorem pack_four {a b c d : Nat} (hb : b < 64) (hc : c < 64) (hd : d < 64) :
    (a <<< 18 ||| b <<< 12 ||| c <<< 6 ||| d) = a * 262144 + b * 4096 + c * 64 + d := by
  have h : a <<< 18 ||| b <<< 12 ||| c <<< 6 = ((((a <<< 6) ||| b) <<< 6) ||| c) <<< 6 := by
    simp only [Nat.shiftLeft_or_distrib, ← Nat.shiftLeft_add]
  rw [h, shiftLeft_or_of_lt (show d < 2 ^ 6 by omega), shiftLeft_or_of_lt (show c < 2 ^ 6 by omega),
    shiftLeft_or_of_lt (show b < 2 ^ 6 by omega)]
  omega

theorem toNat_ofNat_lt {x : Nat} (h : x < 256) : (UInt8.ofNat x).toNat = x := by
  simp [Nat.mod_eq_of_lt h]

/-- A character is a scalar value: below the surrogates, or above them and below U+110000. -/
theorem valid_toNat (c : Char) : c.toNat < 0xD800 ∨ (0xDFFF < c.toNat ∧ c.toNat < 0x110000) :=
  c.valid

/-! ## Reading well-formed sequences -/

/-- The bounds of the second byte after each lead byte, as numbers. -/
theorem secondRange_toNat (b0 : UInt8) :
    (secondRange b0).1.toNat =
      (if b0.toNat = 0xE0 then 0xA0 else if b0.toNat = 0xF0 then 0x90 else 0x80) ∧
    (secondRange b0).2.toNat =
      (if b0.toNat = 0xED then 0x9F else if b0.toNat = 0xF4 then 0x8F else 0xBF) := by
  revert b0
  decide +kernel

set_option maxRecDepth 4000 in
theorem isContinuation_of_range {b : UInt8} (h : 0x80 ≤ b.toNat ∧ b.toNat ≤ 0xBF) :
    isContinuation b = true := by
  revert b
  decide

theorem next?_two {b0 b1 : UInt8} (rest : Bytes) (h0 : 0xC2 ≤ b0.toNat ∧ b0.toNat < 0xE0)
    (h1 : 0x80 ≤ b1.toNat ∧ b1.toNat ≤ 0xBF) :
    next? (b0 :: b1 :: rest) =
      some (.char (scalar (((b0.toNat &&& 0x1F) <<< 6) ||| (b1.toNat &&& 0x3F))), rest) := by
  obtain ⟨hlo, hhi⟩ := secondRange_toNat b0
  simp only [next?, UInt8.lt_iff_toNat_lt, gt_iff_lt, Bool.or_eq_true, decide_eq_true_eq]
  simp only [UInt8.reduceToNat, hlo, hhi]
  rw [if_neg (by omega), if_neg (by omega), if_neg (by split_ifs <;> omega), if_pos (by omega)]

theorem next?_three {b0 b1 b2 : UInt8} (rest : Bytes) (h0 : 0xE0 ≤ b0.toNat ∧ b0.toNat < 0xF0)
    (h1 : (if b0.toNat = 0xE0 then 0xA0 else 0x80) ≤ b1.toNat ∧
      b1.toNat ≤ (if b0.toNat = 0xED then 0x9F else 0xBF))
    (h2 : 0x80 ≤ b2.toNat ∧ b2.toNat ≤ 0xBF) :
    next? (b0 :: b1 :: b2 :: rest) =
      some (.char (scalar (((b0.toNat &&& 0x0F) <<< 12) ||| ((b1.toNat &&& 0x3F) <<< 6) |||
        (b2.toNat &&& 0x3F))), rest) := by
  obtain ⟨hlo, hhi⟩ := secondRange_toNat b0
  simp only [next?, UInt8.lt_iff_toNat_lt, gt_iff_lt, Bool.or_eq_true, decide_eq_true_eq]
  simp only [UInt8.reduceToNat, hlo, hhi, isContinuation_of_range h2, Bool.not_true,
    Bool.false_eq_true, if_false]
  rw [if_neg (by omega), if_neg (by omega), if_neg (by split_ifs at h1 ⊢ <;> omega),
    if_neg (by omega), if_pos (by omega)]

theorem next?_four {b0 b1 b2 b3 : UInt8} (rest : Bytes) (h0 : 0xF0 ≤ b0.toNat ∧ b0.toNat ≤ 0xF4)
    (h1 : (if b0.toNat = 0xF0 then 0x90 else 0x80) ≤ b1.toNat ∧
      b1.toNat ≤ (if b0.toNat = 0xF4 then 0x8F else 0xBF))
    (h2 : 0x80 ≤ b2.toNat ∧ b2.toNat ≤ 0xBF) (h3 : 0x80 ≤ b3.toNat ∧ b3.toNat ≤ 0xBF) :
    next? (b0 :: b1 :: b2 :: b3 :: rest) =
      some (.char (scalar (((b0.toNat &&& 0x07) <<< 18) ||| ((b1.toNat &&& 0x3F) <<< 12) |||
        ((b2.toNat &&& 0x3F) <<< 6) ||| (b3.toNat &&& 0x3F))), rest) := by
  obtain ⟨hlo, hhi⟩ := secondRange_toNat b0
  simp only [next?, UInt8.lt_iff_toNat_lt, gt_iff_lt, Bool.or_eq_true, decide_eq_true_eq]
  simp only [UInt8.reduceToNat, hlo, hhi, isContinuation_of_range h2, isContinuation_of_range h3,
    Bool.not_true, Bool.false_eq_true, if_false]
  rw [if_neg (by omega), if_neg (by omega), if_neg (by split_ifs at h1 ⊢ <;> omega),
    if_neg (by omega), if_neg (by omega)]

/-! ## Reading the encoding of a character -/

/-- The encoding of a character reads back as the character, and reading stops right after it. -/
theorem next?_utf8EncodeChar (c : Char) (rest : Bytes) :
    next? (String.utf8EncodeChar c ++ rest) = some (.char c, rest) := by
  have hvalid := valid_toNat c
  have hc : scalar c.toNat = c := Char.ofNat_toNat c
  have h31 := and_mask_eq_mod (show (31 : Nat) = 2 ^ 5 - 1 by norm_num)
  have h63 := and_mask_eq_mod (show (63 : Nat) = 2 ^ 6 - 1 by norm_num)
  unfold String.utf8EncodeChar
  simp only [show c.val.toNat = c.toNat from rfl]
  split_ifs with h1 h2 h3
  · -- one byte, below 0x80
    have hb : (UInt8.ofNat c.toNat).toNat = c.toNat := toNat_ofNat_lt (by omega)
    simp [next?, UInt8.lt_iff_toNat_lt, hb, show c.toNat < 128 by omega]
  · -- a lead byte from 0xC2 and one continuation byte
    simp only [List.cons_append, List.nil_append]
    rw [next?_two rest (by rw [toNat_ofNat_lt (by omega)]; omega)
        (by rw [toNat_ofNat_lt (by omega)]; omega),
      toNat_ofNat_lt (by omega), toNat_ofNat_lt (by omega), h31, h63,
      shiftLeft_or_of_lt (by omega)]
    have hn : (c.toNat / 64 % 32 + 192) % 2 ^ 5 * 2 ^ 6 + (c.toNat % 64 + 128) % 2 ^ 6 = c.toNat := by
      omega
    rw [hn, hc]
  · -- a lead byte from 0xE0 and two continuation bytes; no surrogate
    have h15 := and_mask_eq_mod (show (15 : Nat) = 2 ^ 4 - 1 by norm_num)
    simp only [List.cons_append, List.nil_append]
    rw [next?_three rest (by rw [toNat_ofNat_lt (by omega)]; omega)
        (by rw [toNat_ofNat_lt (by omega), toNat_ofNat_lt (by omega)]; split_ifs <;> omega)
        (by rw [toNat_ofNat_lt (by omega)]; omega),
      toNat_ofNat_lt (by omega), toNat_ofNat_lt (by omega), toNat_ofNat_lt (by omega),
      h15, h63, h63, pack_three (by omega) (by omega)]
    have hn : (c.toNat / 4096 % 16 + 224) % 2 ^ 4 * 4096 + (c.toNat / 64 % 64 + 128) % 2 ^ 6 * 64 +
        (c.toNat % 64 + 128) % 2 ^ 6 = c.toNat := by
      omega
    rw [hn, hc]
  · -- a lead byte from 0xF0 and three continuation bytes; nothing above U+10FFFF
    have h7 := and_mask_eq_mod (show (7 : Nat) = 2 ^ 3 - 1 by norm_num)
    simp only [List.cons_append, List.nil_append]
    rw [next?_four rest (by rw [toNat_ofNat_lt (by omega)]; omega)
        (by rw [toNat_ofNat_lt (by omega), toNat_ofNat_lt (by omega)]; split_ifs <;> omega)
        (by rw [toNat_ofNat_lt (by omega)]; omega) (by rw [toNat_ofNat_lt (by omega)]; omega),
      toNat_ofNat_lt (by omega), toNat_ofNat_lt (by omega), toNat_ofNat_lt (by omega),
      toNat_ofNat_lt (by omega), h7, h63, h63, h63, pack_four (by omega) (by omega) (by omega)]
    have hn : (c.toNat / 262144 % 8 + 240) % 2 ^ 3 * 262144 +
        (c.toNat / 4096 % 64 + 128) % 2 ^ 6 * 4096 + (c.toNat / 64 % 64 + 128) % 2 ^ 6 * 64 +
        (c.toNat % 64 + 128) % 2 ^ 6 = c.toNat := by
      omega
    rw [hn, hc]

/-! ## Reading the bytes of a string -/

theorem pieces_go_utf8 (cs : List Char) (acc : List Piece) :
    pieces.go (cs.flatMap String.utf8EncodeChar) acc = acc.reverse ++ cs.map .char := by
  induction cs generalizing acc with
  | nil =>
    unfold pieces.go
    split
    · simp
    · rename_i heq; simp [next?] at heq
  | cons c cs ih =>
    unfold pieces.go
    split
    · rename_i heq
      rw [List.flatMap_cons, next?_utf8EncodeChar] at heq
      cases heq
    · rename_i p r heq
      rw [List.flatMap_cons, next?_utf8EncodeChar] at heq
      obtain ⟨rfl, rfl⟩ := Prod.mk.inj (Option.some.inj heq)
      rw [ih]
      simp

/-- The bytes of a string read back as its characters, one piece each. -/
theorem pieces_ofString (s : String) : pieces (ofString s) = s.toList.map .char := by
  rw [pieces, ofString_eq_flatMap, pieces_go_utf8]
  rfl

/-- The text of the bytes of a string is the string. -/
@[simp]
theorem toText_ofString (s : String) : toText (ofString s) = s := by
  rw [toText, pieces_ofString, List.map_map, show Piece.rune ∘ Piece.char = id from rfl,
    List.map_id, String.ofList_toList]

/-! ## Writing pieces back -/

/-- The model's encoder writes what the library's encoder writes. -/
theorem encodeChar_eq_utf8EncodeChar (c : Char) : encodeChar c = String.utf8EncodeChar c := by
  have hvalid := valid_toNat c
  have h63 := and_mask_eq_mod (show (0x3F : Nat) = 2 ^ 6 - 1 by norm_num)
  unfold encodeChar String.utf8EncodeChar
  simp only [show c.val.toNat = c.toNat from rfl, Nat.shiftRight_eq_div_pow]
  split_ifs with h1 h2 h3 h4 h5 h6 <;> try omega
  · rfl
  · rw [or_eq_add_of_lt (show 0xC0 % 2 ^ 6 = 0 by norm_num) (by omega),
      or_eq_add_of_lt (show 0x80 % 2 ^ 6 = 0 by norm_num) (by rw [h63]; omega), h63]
    simp only [List.cons.injEq, and_true]
    constructor <;> congr 1 <;> omega
  · rw [or_eq_add_of_lt (show 0xE0 % 2 ^ 4 = 0 by norm_num) (by omega),
      or_eq_add_of_lt (show 0x80 % 2 ^ 6 = 0 by norm_num) (by rw [h63]; omega),
      or_eq_add_of_lt (show 0x80 % 2 ^ 6 = 0 by norm_num) (by rw [h63]; omega), h63, h63]
    simp only [List.cons.injEq, and_true]
    refine ⟨?_, ?_, ?_⟩ <;> congr 1 <;> omega
  · rw [or_eq_add_of_lt (show 0xF0 % 2 ^ 3 = 0 by norm_num) (by omega),
      or_eq_add_of_lt (show 0x80 % 2 ^ 6 = 0 by norm_num) (by rw [h63]; omega),
      or_eq_add_of_lt (show 0x80 % 2 ^ 6 = 0 by norm_num) (by rw [h63]; omega),
      or_eq_add_of_lt (show 0x80 % 2 ^ 6 = 0 by norm_num) (by rw [h63]; omega), h63, h63, h63]
    simp only [List.cons.injEq, and_true]
    refine ⟨?_, ?_, ?_, ?_⟩ <;> congr 1 <;> omega

/-- Writing characters back gives the bytes of their string. -/
theorem ofPieces_chars (cs : List Char) : ofPieces (cs.map .char) = ofString (String.ofList cs) := by
  rw [ofPieces, ofString_eq_flatMap, String.toList_ofList, List.flatMap_def, List.map_map]
  congr 1
  exact List.map_congr_left fun c _ => encodeChar_eq_utf8EncodeChar c

/-! ## Trimming blank margins -/

/-- Trimming the bytes of a string trims the string. -/
theorem trimBlank_ofString (s : String) : trimBlank (ofString s) = ofString (String.trimBlank s) := by
  have hblank : Text.Piece.isBlank ∘ Piece.char = Text.isBlank := rfl
  rw [trimBlank, String.trimBlank, pieces_ofString, List.dropWhile_map, hblank, ← List.map_reverse,
    List.dropWhile_map, hblank, ← List.map_reverse, ofPieces_chars]

/-- Between blank margins, a text of characters that are not blank is what trimming keeps. -/
theorem trimBlank_margins {pre text post : List Char} (hpre : ∀ c ∈ pre, Text.isBlank c = true)
    (hpost : ∀ c ∈ post, Text.isBlank c = true) (htext : ∀ c ∈ text, Text.isBlank c = false)
    (hne : text ≠ []) :
    String.trimBlank (String.ofList (pre ++ text ++ post)) = String.ofList text := by
  rw [String.trimBlank, String.toList_ofList, List.append_assoc, List.dropWhile_append_of_pos hpre]
  -- the text starts with a character that is not blank, so dropping stops there
  obtain ⟨c, cs, hcs⟩ := List.exists_cons_of_ne_nil hne
  rw [hcs, List.cons_append, List.dropWhile_cons_of_neg (by simp [htext c (by simp [hcs])]),
    ← List.cons_append, ← hcs, List.reverse_append, List.dropWhile_append_of_pos
      (fun x hx => hpost x (List.mem_reverse.mp hx))]
  -- and so does the reversed text
  obtain ⟨d, ds, hds⟩ := List.exists_cons_of_ne_nil (List.reverse_ne_nil_iff.mpr hne)
  rw [hds, List.dropWhile_cons_of_neg
      (by simp [htext d (List.mem_reverse.mp (by simp [hds]))]), ← hds, List.reverse_reverse]

/-! ## Reading gives back the bytes read -/

theorem toNat_scalar {n : Nat} (h : n < 0xD800 ∨ (0xDFFF < n ∧ n < 0x110000)) :
    (scalar n).toNat = n := by
  have hvalid : n.isValidChar := h
  simp [scalar, Char.ofNat, hvalid, Char.ofNatAux, Char.toNat]

theorem ofNat_eq_of_toNat {b : UInt8} {x : Nat} (h : x = b.toNat) : UInt8.ofNat x = b := by
  rw [h, UInt8.ofNat_toNat]

theorem encodeChar_scalar_two {b0 b1 : UInt8} (h0 : 0xC2 ≤ b0.toNat ∧ b0.toNat < 0xE0)
    (h1 : 0x80 ≤ b1.toNat ∧ b1.toNat ≤ 0xBF) :
    encodeChar (scalar (((b0.toNat &&& 0x1F) <<< 6) ||| (b1.toNat &&& 0x3F))) = [b0, b1] := by
  have h31 := and_mask_eq_mod (show (0x1F : Nat) = 2 ^ 5 - 1 by norm_num)
  have h63 := and_mask_eq_mod (show (0x3F : Nat) = 2 ^ 6 - 1 by norm_num)
  rw [h31, h63, shiftLeft_or_of_lt (by omega)]
  have hc := toNat_scalar (n := b0.toNat % 2 ^ 5 * 2 ^ 6 + b1.toNat % 2 ^ 6) (by omega)
  generalize scalar (b0.toNat % 2 ^ 5 * 2 ^ 6 + b1.toNat % 2 ^ 6) = c at hc ⊢
  simp only [encodeChar, hc, Nat.shiftRight_eq_div_pow, Nat.toUInt8_eq]
  rw [if_neg (by omega), if_pos (by omega),
    or_eq_add_of_lt (show 0xC0 % 2 ^ 6 = 0 by norm_num) (by omega),
    or_eq_add_of_lt (show 0x80 % 2 ^ 6 = 0 by norm_num) (by rw [h63]; omega), h63]
  simp only [List.cons.injEq, and_true]
  exact ⟨ofNat_eq_of_toNat (by omega), ofNat_eq_of_toNat (by omega)⟩

theorem encodeChar_scalar_three {b0 b1 b2 : UInt8} (h0 : 0xE0 ≤ b0.toNat ∧ b0.toNat < 0xF0)
    (h1 : (if b0.toNat = 0xE0 then 0xA0 else 0x80) ≤ b1.toNat ∧
      b1.toNat ≤ (if b0.toNat = 0xED then 0x9F else 0xBF))
    (h2 : 0x80 ≤ b2.toNat ∧ b2.toNat ≤ 0xBF) :
    encodeChar (scalar (((b0.toNat &&& 0x0F) <<< 12) ||| ((b1.toNat &&& 0x3F) <<< 6) |||
      (b2.toNat &&& 0x3F))) = [b0, b1, b2] := by
  have h15 := and_mask_eq_mod (show (0x0F : Nat) = 2 ^ 4 - 1 by norm_num)
  have h63 := and_mask_eq_mod (show (0x3F : Nat) = 2 ^ 6 - 1 by norm_num)
  rw [h15, h63, h63, pack_three (by omega) (by omega)]
  have hc := toNat_scalar (n := b0.toNat % 2 ^ 4 * 4096 + b1.toNat % 2 ^ 6 * 64 + b2.toNat % 2 ^ 6)
    (by split_ifs at h1 <;> omega)
  generalize scalar (b0.toNat % 2 ^ 4 * 4096 + b1.toNat % 2 ^ 6 * 64 + b2.toNat % 2 ^ 6) = c at hc ⊢
  simp only [encodeChar, hc, Nat.shiftRight_eq_div_pow, Nat.toUInt8_eq]
  rw [if_neg (by split_ifs at h1 <;> omega), if_neg (by split_ifs at h1 <;> omega),
    if_pos (by omega),
    or_eq_add_of_lt (show 0xE0 % 2 ^ 4 = 0 by norm_num) (by omega),
    or_eq_add_of_lt (show 0x80 % 2 ^ 6 = 0 by norm_num) (by rw [h63]; omega),
    or_eq_add_of_lt (show 0x80 % 2 ^ 6 = 0 by norm_num) (by rw [h63]; omega), h63, h63]
  simp only [List.cons.injEq, and_true]
  refine ⟨ofNat_eq_of_toNat ?_, ofNat_eq_of_toNat ?_, ofNat_eq_of_toNat ?_⟩ <;>
    split_ifs at h1 <;> omega

theorem encodeChar_scalar_four {b0 b1 b2 b3 : UInt8} (h0 : 0xF0 ≤ b0.toNat ∧ b0.toNat ≤ 0xF4)
    (h1 : (if b0.toNat = 0xF0 then 0x90 else 0x80) ≤ b1.toNat ∧
      b1.toNat ≤ (if b0.toNat = 0xF4 then 0x8F else 0xBF))
    (h2 : 0x80 ≤ b2.toNat ∧ b2.toNat ≤ 0xBF) (h3 : 0x80 ≤ b3.toNat ∧ b3.toNat ≤ 0xBF) :
    encodeChar (scalar (((b0.toNat &&& 0x07) <<< 18) ||| ((b1.toNat &&& 0x3F) <<< 12) |||
      ((b2.toNat &&& 0x3F) <<< 6) ||| (b3.toNat &&& 0x3F))) = [b0, b1, b2, b3] := by
  have h7 := and_mask_eq_mod (show (0x07 : Nat) = 2 ^ 3 - 1 by norm_num)
  have h63 := and_mask_eq_mod (show (0x3F : Nat) = 2 ^ 6 - 1 by norm_num)
  rw [h7, h63, h63, h63, pack_four (by omega) (by omega) (by omega)]
  have hc := toNat_scalar (n := b0.toNat % 2 ^ 3 * 262144 + b1.toNat % 2 ^ 6 * 4096 +
    b2.toNat % 2 ^ 6 * 64 + b3.toNat % 2 ^ 6) (by split_ifs at h1 <;> omega)
  generalize scalar (b0.toNat % 2 ^ 3 * 262144 + b1.toNat % 2 ^ 6 * 4096 +
    b2.toNat % 2 ^ 6 * 64 + b3.toNat % 2 ^ 6) = c at hc ⊢
  simp only [encodeChar, hc, Nat.shiftRight_eq_div_pow, Nat.toUInt8_eq]
  rw [if_neg (by split_ifs at h1 <;> omega), if_neg (by split_ifs at h1 <;> omega),
    if_neg (by split_ifs at h1 <;> omega),
    or_eq_add_of_lt (show 0xF0 % 2 ^ 3 = 0 by norm_num) (by split_ifs at h1 <;> omega),
    or_eq_add_of_lt (show 0x80 % 2 ^ 6 = 0 by norm_num) (by rw [h63]; omega),
    or_eq_add_of_lt (show 0x80 % 2 ^ 6 = 0 by norm_num) (by rw [h63]; omega),
    or_eq_add_of_lt (show 0x80 % 2 ^ 6 = 0 by norm_num) (by rw [h63]; omega), h63, h63, h63]
  simp only [List.cons.injEq, and_true]
  refine ⟨ofNat_eq_of_toNat ?_, ofNat_eq_of_toNat ?_, ofNat_eq_of_toNat ?_,
    ofNat_eq_of_toNat ?_⟩ <;> split_ifs at h1 <;> omega

set_option maxRecDepth 4000 in
theorem range_of_isContinuation {b : UInt8} (h : isContinuation b = true) :
    0x80 ≤ b.toNat ∧ b.toNat ≤ 0xBF := by
  revert b
  decide

theorem encodeChar_ascii {b : UInt8} (h : b.toNat < 128) : encodeChar (Char.ofNat b.toNat) = [b] := by
  have hvalid : b.toNat.isValidChar := Or.inl (by omega)
  have hc : (Char.ofNat b.toNat).toNat = b.toNat := by
    simp [Char.ofNat, hvalid, Char.ofNatAux, Char.toNat]
  simp [encodeChar, hc, h]

theorem next?_cons_bytes {b0 : UInt8} {rest : Bytes} {p : Piece} {r : Bytes}
    (h : next? (b0 :: rest) = some (p, r)) : p.bytes ++ r = b0 :: rest := by
  obtain ⟨hlo, hhi⟩ := secondRange_toNat b0
  simp only [next?, UInt8.lt_iff_toNat_lt, gt_iff_lt, Bool.or_eq_true, decide_eq_true_eq,
    UInt8.reduceToNat, Bool.not_eq_true'] at h
  split at h
  · -- a byte below 0x80 is its own character
    rename_i ha
    obtain ⟨rfl, rfl⟩ := Prod.mk.inj (Option.some.inj h)
    simp [Piece.bytes, encodeChar_ascii ha]
  rename_i ha
  split at h
  · -- a byte that starts no sequence stands alone
    cases h
    rfl
  rename_i hlead
  -- a lead byte: its sequence is read as far as the bytes after it allow
  split at h
  · rename_i b1 r1
    split at h
    · obtain ⟨rfl, rfl⟩ := Prod.mk.inj (Option.some.inj h)
      rfl
    rename_i h1
    split at h
    · rename_i h0
      obtain ⟨rfl, rfl⟩ := Prod.mk.inj (Option.some.inj h)
      rw [Piece.bytes, encodeChar_scalar_two (by omega) (by split_ifs at hlo hhi <;> omega)]
      rfl
    rename_i h0
    split at h
    · rename_i b2 r2
      split at h
      · obtain ⟨rfl, rfl⟩ := Prod.mk.inj (Option.some.inj h)
        rfl
      rename_i h2
      have h2 := range_of_isContinuation (by simpa using h2)
      split at h
      · rename_i h0'
        obtain ⟨rfl, rfl⟩ := Prod.mk.inj (Option.some.inj h)
        rw [Piece.bytes, encodeChar_scalar_three (by omega) (by split_ifs at hlo hhi ⊢ <;> omega) h2]
        rfl
      rename_i h0'
      split at h
      · rename_i b3 r3
        split at h
        · obtain ⟨rfl, rfl⟩ := Prod.mk.inj (Option.some.inj h)
          rfl
        rename_i h3
        have h3 := range_of_isContinuation (by simpa using h3)
        obtain ⟨rfl, rfl⟩ := Prod.mk.inj (Option.some.inj h)
        rw [Piece.bytes, encodeChar_scalar_four (by omega) (by split_ifs at hlo hhi ⊢ <;> omega) h2 h3]
        rfl
      · obtain ⟨rfl, rfl⟩ := Prod.mk.inj (Option.some.inj h)
        rfl
    · obtain ⟨rfl, rfl⟩ := Prod.mk.inj (Option.some.inj h)
      rfl
  · obtain ⟨rfl, rfl⟩ := Prod.mk.inj (Option.some.inj h)
    rfl

/-- A non-empty byte string always yields a piece. -/
theorem next?_cons_isSome (b0 : UInt8) (rest : Bytes) : (next? (b0 :: rest)).isSome := by
  simp only [next?]
  repeat' split
  all_goals rfl

set_option maxRecDepth 4000 in
/-- Every byte after the first of a character's encoding is a continuation byte. -/
theorem encodeChar_tail (c : Char) : ∀ b ∈ (encodeChar c).tail, 0x80 ≤ b.toNat := by
  simp only [encodeChar]
  split_ifs <;> simp [Nat.left_le_or]

theorem length_encodeChar_le (c : Char) : (encodeChar c).length ≤ 4 := by
  simp only [encodeChar]
  split_ifs <;> simp


/-- Reading never loses a byte: the piece read and the rest give back the input. -/
theorem next?_bytes {bs : Bytes} {p : Piece} {r : Bytes} (h : next? bs = some (p, r)) :
    p.bytes ++ r = bs := by
  cases bs with
  | nil => cases h
  | cons b0 rest => exact next?_cons_bytes h

theorem pieces_go_none {bs : Bytes} (h : next? bs = none) (acc : List Piece) :
    pieces.go bs acc = acc.reverse := by
  unfold pieces.go
  split
  · rfl
  · rename_i hsome
    rw [h] at hsome
    cases hsome

theorem pieces_go_some {bs : Bytes} {p : Piece} {rest : Bytes} (h : next? bs = some (p, rest))
    (acc : List Piece) : pieces.go bs acc = pieces.go rest (p :: acc) := by
  conv_lhs => unfold pieces.go
  split
  · rename_i hnone
    rw [h] at hnone
    cases hnone
  · rename_i p' rest' hsome
    rw [h] at hsome
    cases hsome
    rfl

theorem pieces_go_eq (bs : Bytes) (acc : List Piece) :
    pieces.go bs acc = acc.reverse ++ pieces bs := by
  induction hn : bs.length using Nat.strong_induction_on generalizing bs acc with
  | _ n ih =>
    cases hnext : next? bs with
    | none => rw [pieces, pieces_go_none hnext, pieces_go_none hnext]; simp
    | some pr =>
      obtain ⟨p, rest⟩ := pr
      have hlt : rest.length < n := hn ▸ next?_length hnext
      rw [pieces, pieces_go_some hnext, pieces_go_some hnext, ih _ hlt rest _ rfl,
        ih _ hlt rest [p] rfl]
      simp

theorem pieces_nil : pieces [] = [] := pieces_go_none rfl []

/-- The pieces of a byte string are the piece read first and the pieces of the rest. -/
theorem pieces_of_next? {bs : Bytes} {p : Piece} {r : Bytes} (h : next? bs = some (p, r)) :
    pieces bs = p :: pieces r := by
  rw [pieces, pieces_go_some h, pieces_go_eq]
  rfl

/-- Writing back the pieces of a byte string gives the byte string. -/
@[simp]
theorem ofPieces_pieces (bs : Bytes) : ofPieces (pieces bs) = bs := by
  induction hn : bs.length using Nat.strong_induction_on generalizing bs with
  | _ n ih =>
    cases bs with
    | nil => rw [pieces_nil]; rfl
    | cons b0 rest =>
      obtain ⟨⟨p, r⟩, hsome⟩ := Option.isSome_iff_exists.mp (next?_cons_isSome b0 rest)
      have hlt : r.length < n := hn ▸ next?_length hsome
      rw [pieces_of_next? hsome, ofPieces, List.map_cons, List.flatten_cons, ← ofPieces,
        ih _ hlt r rfl, next?_bytes hsome]


/-! ## Reading in parts -/

/-- A byte below 0x80 after a byte string ends whatever the string's last bytes began: the
piece read from the front is the same, with the byte and what follows it added to the rest. -/
theorem next?_append_ascii {bs : Bytes} {p : Piece} {r : Bytes} (h : next? bs = some (p, r))
    {ys : Bytes} (hys : ∀ b ∈ ys.head?, b.toNat < 0x80) :
    next? (bs ++ ys) = some (p, r ++ ys) := by
  have hb := next?_bytes h
  cases p with
  | char c =>
    rw [← hb, List.append_assoc, Piece.bytes, encodeChar_eq_utf8EncodeChar, next?_utf8EncodeChar]
  | stray b =>
    simp only [Piece.bytes, List.singleton_append] at hb
    subst hb
    obtain ⟨⟨q, r'⟩, hq⟩ := Option.isSome_iff_exists.mp (next?_cons_isSome b (r ++ ys))
    have hq' := next?_bytes hq
    cases q with
    | stray b' =>
      simp only [Piece.bytes, List.singleton_append, List.cons.injEq] at hq'
      obtain ⟨rfl, rfl⟩ := hq'
      exact hq
    | char c =>
      -- a character read across the end would take a byte of `ys` as a continuation byte
      exfalso
      rw [Piece.bytes, ← List.cons_append] at hq'
      rcases List.append_eq_append_iff.mp hq' with ⟨t, htok, -⟩ | ⟨t, henc, hys'⟩
      · -- the character lies within `b :: r`, where it would have been read
        rw [htok, encodeChar_eq_utf8EncodeChar, next?_utf8EncodeChar] at h
        cases h
      · cases t with
        | nil =>
          rw [List.append_nil] at henc
          rw [← henc, encodeChar_eq_utf8EncodeChar, ← List.append_nil (String.utf8EncodeChar c),
            next?_utf8EncodeChar] at h
          cases h
        | cons y t =>
          have hy : y ∈ (encodeChar c).tail := by simp [henc]
          have hlow := hys y (by simp [hys'])
          have hhigh := encodeChar_tail c y hy
          omega

/-- A byte string followed by one starting below 0x80 reads as the two read apart. -/
theorem pieces_append_ascii (xs : Bytes) {ys : Bytes} (hys : ∀ b ∈ ys.head?, b.toNat < 0x80) :
    pieces (xs ++ ys) = pieces xs ++ pieces ys := by
  induction hn : xs.length using Nat.strong_induction_on generalizing xs with
  | _ n ih =>
    cases xs with
    | nil => rw [pieces_nil]; rfl
    | cons b0 rest =>
      obtain ⟨⟨p, r⟩, hsome⟩ := Option.isSome_iff_exists.mp (next?_cons_isSome b0 rest)
      have hlt : r.length < n := hn ▸ next?_length hsome
      rw [pieces_of_next? hsome, pieces_of_next? (next?_append_ascii hsome hys), ih _ hlt r rfl,
        List.cons_append]

theorem next?_cons_ascii {a : UInt8} (h : a.toNat < 0x80) (rest : Bytes) :
    next? (a :: rest) = some (.char (Char.ofNat a.toNat), rest) := by
  simp [next?, UInt8.lt_iff_toNat_lt, h]

/-- A byte string ending below 0x80, followed by any other, reads as the two read apart. -/
theorem pieces_append_of_last_ascii {xs : Bytes} (hxs : ∀ b ∈ xs.getLast?, b.toNat < 0x80)
    (ys : Bytes) : pieces (xs ++ ys) = pieces xs ++ pieces ys := by
  rcases List.eq_nil_or_concat xs with rfl | ⟨xs', a, rfl⟩
  · rw [pieces_nil]
    rfl
  have ha : a.toNat < 0x80 := hxs a (by simp)
  have hone : ∀ rest, pieces (a :: rest) = .char (Char.ofNat a.toNat) :: pieces rest :=
    fun rest => pieces_of_next? (next?_cons_ascii ha rest)
  rw [List.concat_eq_append, List.append_assoc, List.singleton_append,
    @pieces_append_ascii xs' (a :: ys) (by simpa using ha),
    @pieces_append_ascii xs' [a] (by simpa using ha), hone, hone, pieces_nil]
  simp

theorem length_bytes_le (p : Piece) : p.bytes.length ≤ 4 := by
  cases p with
  | char c => exact length_encodeChar_le c
  | stray b => simp [Piece.bytes]

/-- A prefix of at most four bytes is a prefix of any text agreeing on the first four. -/
theorem take_eq_of_take_four {e xs ys : Bytes} (he : e.length ≤ 4) (hx : xs.take e.length = e)
    (h : ys.take 4 = xs.take 4) : ys.take e.length = e := by
  calc ys.take e.length = (ys.take 4).take e.length := by rw [List.take_take, Nat.min_eq_left he]
    _ = (xs.take 4).take e.length := by rw [h]
    _ = e := by rw [List.take_take, Nat.min_eq_left he, hx]

/-- Reading looks at four bytes at most: texts agreeing on their first four bytes start with
the same piece. -/
theorem next?_congr_take {bs bs' : Bytes} {p : Piece} {r : Bytes} (h : next? bs = some (p, r))
    (htake : bs'.take 4 = bs.take 4) : ∃ r', next? bs' = some (p, r') := by
  have hb := next?_bytes h
  have hpre : bs.take p.bytes.length = p.bytes := by rw [← hb, List.take_left]
  have hpre' := take_eq_of_take_four (length_bytes_le p) hpre htake
  have hlen : p.bytes.length ≤ bs'.length := by
    have := congrArg List.length hpre'
    simp only [List.length_take] at this
    omega
  obtain ⟨t, rfl⟩ : ∃ t, bs' = p.bytes ++ t :=
    ⟨bs'.drop p.bytes.length, by rw [← List.take_append_drop p.bytes.length bs', hpre']; simp⟩
  cases p with
  | char c =>
    refine ⟨t, ?_⟩
    rw [Piece.bytes, encodeChar_eq_utf8EncodeChar, next?_utf8EncodeChar]
  | stray b =>
    obtain ⟨⟨q, r'⟩, hq⟩ := Option.isSome_iff_exists.mp (next?_cons_isSome b t)
    have hq' := next?_bytes hq
    cases q with
    | stray b' =>
      refine ⟨r', ?_⟩
      simp only [Piece.bytes, List.singleton_append, List.cons.injEq] at hq'
      obtain ⟨rfl, -⟩ := hq'
      exact hq
    | char c =>
      -- a character read here would have been read from `bs` as well
      exfalso
      have hc : (b :: t).take (encodeChar c).length = encodeChar c := by
        rw [← hq', Piece.bytes, List.take_left]
      have hc' := take_eq_of_take_four (length_encodeChar_le c) hc htake.symm
      rw [← List.take_append_drop (encodeChar c).length bs, hc', encodeChar_eq_utf8EncodeChar,
        next?_utf8EncodeChar] at h
      cases h

theorem head?_pieces (bs : Bytes) : (pieces bs).head? = (next? bs).map Prod.fst := by
  cases hnext : next? bs with
  | none =>
    cases bs with
    | nil => rw [pieces_nil]; rfl
    | cons b0 rest =>
      have hsome := next?_cons_isSome b0 rest
      rw [hnext] at hsome
      cases hsome
  | some pr => rw [pieces_of_next? hnext]; rfl

end Ledger.Bytes
