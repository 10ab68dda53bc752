import Mathlib
import Ledger.Proofs.Utf8Reading
/-!
# Base64 and hex text read back what was written

Decoding the base64 text that encoding writes gives back the bytes, by induction over the
groups of three (`base64Decode_base64Encode`); hex text in any case decodes to the bytes it
spells (`hexDecode_hexText`).
-/

namespace Ledger.Crypto

open Bytes (ofString)

theorem ofString_append (s t : String) : ofString (s ++ t) = ofString s ++ ofString t := by
  rw [Bytes.ofString_eq_flatMap, Bytes.ofString_eq_flatMap, Bytes.ofString_eq_flatMap,
    String.toList_append, List.flatMap_append]

/-! ## The alphabet -/

/-- The byte written for a symbol value. -/
def symbolByte (v : Nat) : UInt8 := (alphabet[v]!).toNat.toUInt8

set_option maxRecDepth 4000 in
/-- Every symbol of the alphabet is written as one byte. -/
theorem utf8EncodeChar_alphabet : ∀ v : Fin 64,
    String.utf8EncodeChar alphabet[v.val]! = [symbolByte v] := by
  decide

set_option maxRecDepth 4000 in
/-- The byte of each symbol reads back as the symbol's position in the alphabet. -/
theorem symbolValue_symbolByte : ∀ v : Fin 64, symbolValue (symbolByte v) = some v := by
  decide

theorem utf8EncodeChar_alphabet_mod (k : Nat) :
    String.utf8EncodeChar alphabet[k % 64]! = [symbolByte (k % 64)] :=
  utf8EncodeChar_alphabet ⟨k % 64, Nat.mod_lt k (by decide)⟩

/-! ## Writing groups -/

theorem ofString_encodeGroup_three (x y z : UInt8) :
    ofString (encodeGroup [x, y, z]) =
      [((x.toNat * 256 + y.toNat) * 256 + z.toNat) / 262144 % 64,
        ((x.toNat * 256 + y.toNat) * 256 + z.toNat) / 4096 % 64,
        ((x.toNat * 256 + y.toNat) * 256 + z.toNat) / 64 % 64,
        ((x.toNat * 256 + y.toNat) * 256 + z.toNat) % 64].map symbolByte := by
  simp only [encodeGroup, List.length_cons, List.length_nil, Bytes.ofString_eq_flatMap,
    String.toList_ofList]
  simp [utf8EncodeChar_alphabet_mod, Nat.pow_eq]

theorem ofString_encodeGroup_two (x y : UInt8) :
    ofString (encodeGroup [x, y]) =
      [(x.toNat * 256 + y.toNat) * 256 / 262144 % 64, (x.toNat * 256 + y.toNat) * 256 / 4096 % 64,
        (x.toNat * 256 + y.toNat) * 256 / 64 % 64].map symbolByte ++ [61] := by
  simp only [encodeGroup, List.length_cons, List.length_nil, Bytes.ofString_eq_flatMap,
    String.toList_ofList]
  simp [utf8EncodeChar_alphabet_mod, Nat.pow_eq]
  rfl

theorem ofString_encodeGroup_one (x : UInt8) :
    ofString (encodeGroup [x]) =
      [x.toNat * 65536 / 262144 % 64, x.toNat * 65536 / 4096 % 64].map symbolByte ++ [61, 61] := by
  simp only [encodeGroup, List.length_cons, List.length_nil, Bytes.ofString_eq_flatMap,
    String.toList_ofList]
  simp [utf8EncodeChar_alphabet_mod, Nat.pow_eq]
  rfl

/-! ## The bytes of a group's values -/

theorem groupBytes_three (x y z : UInt8) :
    groupBytes [((x.toNat * 256 + y.toNat) * 256 + z.toNat) / 262144 % 64,
        ((x.toNat * 256 + y.toNat) * 256 + z.toNat) / 4096 % 64,
        ((x.toNat * 256 + y.toNat) * 256 + z.toNat) / 64 % 64,
        ((x.toNat * 256 + y.toNat) * 256 + z.toNat) % 64] = [x, y, z] := by
  have hx := x.toNat_lt
  have hy := y.toNat_lt
  have hz := z.toNat_lt
  simp only [groupBytes, List.length_cons, List.length_nil, List.take_succ_cons, List.take_zero,
    List.cons.injEq, and_true]
  refine ⟨?_, ?_, ?_⟩ <;> apply UInt8.toNat_inj.mp <;> simp <;> omega

theorem groupBytes_two (x y : UInt8) :
    groupBytes [(x.toNat * 256 + y.toNat) * 256 / 262144 % 64,
        (x.toNat * 256 + y.toNat) * 256 / 4096 % 64,
        (x.toNat * 256 + y.toNat) * 256 / 64 % 64] = [x, y] := by
  have hx := x.toNat_lt
  have hy := y.toNat_lt
  simp only [groupBytes, List.length_cons, List.length_nil, List.cons_append, List.nil_append,
    List.foldl_cons, List.take_succ_cons, List.take_zero, List.cons.injEq, and_true]
  refine ⟨?_, ?_⟩ <;> apply UInt8.toNat_inj.mp <;> simp <;> omega

theorem groupBytes_one (x : UInt8) :
    groupBytes [x.toNat * 65536 / 262144 % 64, x.toNat * 65536 / 4096 % 64] = [x] := by
  have hx := x.toNat_lt
  simp only [groupBytes, List.length_cons, List.length_nil, List.cons_append, List.nil_append,
    List.foldl_cons, List.take_succ_cons, List.take_zero, List.cons.injEq, and_true]
  apply UInt8.toNat_inj.mp
  simp
  omega

theorem groupsOfThree_go_eq (bs : Bytes) (acc : List (List UInt8)) :
    groupsOfThree.go bs acc = acc.reverse ++ groupsOfThree bs := by
  by_cases h : bs = []
  · subst h
    simp [groupsOfThree, groupsOfThree.go]
  · -- the accumulator is only prepended to: one step, then the claim for the shorter rest
    have hlen : (bs.drop 3).length < bs.length := by
      have := List.length_pos_of_ne_nil h
      simp only [List.length_drop]
      omega
    rw [groupsOfThree.go.eq_1 bs acc, dif_neg h, groupsOfThree, groupsOfThree.go.eq_1 bs [],
      dif_neg h, groupsOfThree_go_eq (bs.drop 3) (bs.take 3 :: acc),
      groupsOfThree_go_eq (bs.drop 3) [bs.take 3]]
    simp
termination_by bs.length

theorem groupsOfThree_short {bs : Bytes} (h0 : bs ≠ []) (h3 : bs.length ≤ 3) :
    groupsOfThree bs = [bs] := by
  rw [groupsOfThree, groupsOfThree.go, dif_neg h0, List.drop_eq_nil_of_le h3,
    List.take_of_length_le h3, groupsOfThree.go, dif_pos rfl]
  rfl

theorem groupsOfThree_cons_three (x y z : UInt8) (rest : Bytes) :
    groupsOfThree (x :: y :: z :: rest) = [x, y, z] :: groupsOfThree rest := by
  rw [groupsOfThree, groupsOfThree.go, dif_neg (List.cons_ne_nil _ _), groupsOfThree_go_eq]
  rfl

theorem base64Encode_nil : base64Encode [] = "" := by
  simp [base64Encode, groupsOfThree, groupsOfThree.go]

theorem base64Encode_short {bs : Bytes} (h0 : bs ≠ []) (h3 : bs.length ≤ 3) :
    base64Encode bs = encodeGroup bs := by
  rw [base64Encode, groupsOfThree_short h0 h3]
  simp

theorem ofString_base64Encode_cons_three (x y z : UInt8) (rest : Bytes) :
    ofString (base64Encode (x :: y :: z :: rest)) =
      ofString (encodeGroup [x, y, z]) ++ ofString (base64Encode rest) := by
  rw [base64Encode, groupsOfThree_cons_three, List.map_cons, String.join_cons, ofString_append]
  rfl

/-! ## Reading one group -/

theorem getElem?_of_drop {src : Array UInt8} {si : Nat} {b : UInt8} {rest : Bytes}
    (h : src.toList.drop si = b :: rest) : src[si]? = some b ∧ src.toList.drop (si + 1) = rest := by
  constructor
  · rw [← Array.getElem?_toList, ← List.head?_drop, h]
    rfl
  · rw [← List.tail_drop, h]
    rfl

theorem skipLineEnds_of_size_le {src : Array UInt8} {i : Nat} (h : src.size ≤ i) :
    skipLineEnds src i = i := by
  rw [skipLineEnds, dif_neg (by omega)]

theorem skipLineEnds_of_symbol {src : Array UInt8} {i : Nat} (h : i < src.size)
    (hb : isLineEnd src[i] = false) : skipLineEnds src i = i := by
  rw [skipLineEnds, dif_pos h, hb]
  rfl

theorem symbolValue_pad : symbolValue 61 = none := by decide

theorem isLineEnd_pad : isLineEnd 61 = false := by decide

/-- A symbol of a group that is not complete adds its value to the group. -/
theorem readQuantum_symbol {src : Array UInt8} {fuel si : Nat} {vals : List Nat} {b : UInt8}
    {v : Nat} (hb : src[si]? = some b) (hv : symbolValue b = some v) (hj : vals.length ≠ 4) :
    readQuantum src (fuel + 1) si vals = readQuantum src fuel (si + 1) (vals ++ [v]) := by
  obtain ⟨h, rfl⟩ := Array.getElem?_eq_some_iff.mp hb
  simp only [readQuantum, if_neg hj, dif_pos h, hv]

/-- Four values make a group. -/
theorem readQuantum_four {src : Array UInt8} {fuel si : Nat} {vals : List Nat}
    (hj : vals.length = 4) :
    readQuantum src (fuel + 1) si vals = ⟨si, groupBytes vals, none⟩ := by
  simp only [readQuantum, if_pos hj]

/-- A run of symbol bytes, one fuel step each, adds their values to the group. -/
theorem readQuantum_symbols (src : Array UInt8) (fuel : Nat) {rest : Bytes} :
    ∀ {si : Nat} (vals vs : List Nat), (∀ v ∈ vs, v < 64) →
      src.toList.drop si = vs.map symbolByte ++ rest → vals.length + vs.length ≤ 4 →
      readQuantum src (fuel + vs.length) si vals =
        readQuantum src fuel (si + vs.length) (vals ++ vs) := by
  intro si vals vs
  induction vs generalizing si vals with
  | nil => simp
  | cons v vs ih =>
    intro hvs hsrc hlen
    simp only [List.length_cons] at hlen
    obtain ⟨hb, hrest⟩ := getElem?_of_drop hsrc
    have hv : symbolValue (symbolByte v) = some v := symbolValue_symbolByte ⟨v, hvs v (by simp)⟩
    rw [List.length_cons, ← Nat.add_assoc, readQuantum_symbol hb hv (by omega),
      ih (vals ++ [v]) (fun w hw => hvs w (by simp [hw])) hrest
        (by simp only [List.length_append, List.length_singleton]; omega)]
    simp only [List.append_assoc, List.singleton_append]
    congr 1
    omega

/-- Two symbols followed by two pads end the text. -/
theorem readQuantum_pad_two {src : Array UInt8} {fuel si : Nat} {vals : List Nat}
    (hj : vals.length = 2) (hsrc : src.toList.drop si = [61, 61]) :
    readQuantum src (fuel + 1) si vals = ⟨si + 2, groupBytes vals, some none⟩ := by
  have hsize : src.size = si + 2 := by
    have := congrArg List.length hsrc
    simp at this
    omega
  obtain ⟨h0, hnext⟩ := getElem?_of_drop hsrc
  obtain ⟨h1, -⟩ := getElem?_of_drop hnext
  obtain ⟨hlt0, h0⟩ := Array.getElem?_eq_some_iff.mp h0
  obtain ⟨hlt1, h1⟩ := Array.getElem?_eq_some_iff.mp h1
  have hk : skipLineEnds src (si + 1) = si + 1 :=
    skipLineEnds_of_symbol hlt1 (by rw [h1]; exact isLineEnd_pad)
  have hk2 : skipLineEnds src (si + 2) = si + 2 := skipLineEnds_of_size_le (by omega)
  simp only [readQuantum, hj, dif_pos hlt0, h0]
  simp [symbolValue_pad, isLineEnd_pad, hk, hk2, hsize, h1]

/-- Three symbols followed by one pad end the text. -/
theorem readQuantum_pad_one {src : Array UInt8} {fuel si : Nat} {vals : List Nat}
    (hj : vals.length = 3) (hsrc : src.toList.drop si = [61]) :
    readQuantum src (fuel + 1) si vals = ⟨si + 1, groupBytes vals, some none⟩ := by
  have hsize : src.size = si + 1 := by
    have := congrArg List.length hsrc
    simp at this
    omega
  obtain ⟨h0, -⟩ := getElem?_of_drop hsrc
  obtain ⟨hlt0, h0⟩ := Array.getElem?_eq_some_iff.mp h0
  have hk : skipLineEnds src (si + 1) = si + 1 := skipLineEnds_of_size_le (by omega)
  simp only [readQuantum, hj, dif_pos hlt0, h0]
  simp [symbolValue_pad, isLineEnd_pad, hk, hsize]

/-- A full group is read as its three bytes, and reading goes on after it. -/
theorem readQuantum_full {src : Array UInt8} {si : Nat} (fuel : Nat) {x y z : UInt8} {rest : Bytes}
    (hsrc : src.toList.drop si = ofString (encodeGroup [x, y, z]) ++ rest) :
    readQuantum src (fuel + 5) si [] = ⟨si + 4, [x, y, z], none⟩ := by
  rw [ofString_encodeGroup_three] at hsrc
  calc readQuantum src (fuel + 5) si []
      = readQuantum src (fuel + 1) (si + 4) ([] ++ _) :=
        readQuantum_symbols src (fuel + 1) [] _ (by simp [Nat.mod_lt]) hsrc (by simp)
    _ = ⟨si + 4, [x, y, z], none⟩ := by
        rw [readQuantum_four (by simp), List.nil_append, groupBytes_three]

/-- A last group of two bytes is read from three symbols and a pad, and ends the text. -/
theorem readQuantum_pair {src : Array UInt8} {si : Nat} (fuel : Nat) {x y : UInt8}
    (hsrc : src.toList.drop si = ofString (encodeGroup [x, y])) :
    readQuantum src (fuel + 4) si [] = ⟨si + 4, [x, y], some none⟩ := by
  rw [ofString_encodeGroup_two] at hsrc
  have hpad : src.toList.drop (si + 3) = [61] := by
    rw [← List.drop_drop, hsrc, List.drop_left' (by simp)]
  calc readQuantum src (fuel + 4) si []
      = readQuantum src (fuel + 1) (si + 3) ([] ++ _) :=
        readQuantum_symbols src (fuel + 1) [] _ (by simp [Nat.mod_lt]) hsrc (by simp)
    _ = ⟨si + 4, [x, y], some none⟩ := by
        rw [readQuantum_pad_one (by simp) hpad, List.nil_append, groupBytes_two]

/-- A last group of one byte is read from two symbols and two pads, and ends the text. -/
theorem readQuantum_single {src : Array UInt8} {si : Nat} (fuel : Nat) {x : UInt8}
    (hsrc : src.toList.drop si = ofString (encodeGroup [x])) :
    readQuantum src (fuel + 3) si [] = ⟨si + 4, [x], some none⟩ := by
  rw [ofString_encodeGroup_one] at hsrc
  have hpad : src.toList.drop (si + 2) = [61, 61] := by
    rw [← List.drop_drop, hsrc, List.drop_left' (by simp)]
  calc readQuantum src (fuel + 3) si []
      = readQuantum src (fuel + 1) (si + 2) ([] ++ _) :=
        readQuantum_symbols src (fuel + 1) [] _ (by simp [Nat.mod_lt]) hsrc (by simp)
    _ = ⟨si + 4, [x], some none⟩ := by
        rw [readQuantum_pad_two (by simp) hpad, List.nil_append, groupBytes_one]

/-! ## Reading the text of a byte string -/

theorem length_ofString_encodeGroup_three (x y z : UInt8) :
    (ofString (encodeGroup [x, y, z])).length = 4 := by
  rw [ofString_encodeGroup_three]
  rfl

/-- Decoding from where the text of some bytes starts, up to the end of the source, adds
those bytes to what was already read. -/
theorem decodeGroups_base64Encode (src : Array UInt8) :
    ∀ (bs : Bytes) {si fuel : Nat} (acc : List (List UInt8)),
      src.toList.drop si = ofString (base64Encode bs) → src.size - si < fuel →
      decodeGroups src fuel si acc = .ok (acc.reverse.flatten ++ bs)
  | [], si, fuel, acc, hsrc, hfuel => by
    rw [base64Encode_nil] at hsrc
    have hend : src.size ≤ si := by
      have hnil : src.toList.drop si = [] := hsrc.trans (by simp [Bytes.ofString_eq_flatMap])
      simpa using List.drop_eq_nil_iff.mp hnil
    obtain ⟨fuel, rfl⟩ : ∃ f, fuel = f + 1 := ⟨fuel - 1, by omega⟩
    simp [decodeGroups, show ¬si < src.size by omega]
  | [x], si, fuel, acc, hsrc, hfuel => by
    rw [base64Encode_short (by simp) (by simp)] at hsrc
    have hsize : src.size = si + 4 := by
      have := congrArg List.length hsrc
      rw [ofString_encodeGroup_one] at this
      simp at this
      omega
    obtain ⟨fuel, rfl⟩ : ∃ f, fuel = f + 1 := ⟨fuel - 1, by omega⟩
    simp only [decodeGroups, if_pos (show si < src.size by omega),
      show src.size + 1 = src.size - 2 + 3 by omega, readQuantum_single _ hsrc]
    simp
  | [x, y], si, fuel, acc, hsrc, hfuel => by
    rw [base64Encode_short (by simp) (by simp)] at hsrc
    have hsize : src.size = si + 4 := by
      have := congrArg List.length hsrc
      rw [ofString_encodeGroup_two] at this
      simp at this
      omega
    obtain ⟨fuel, rfl⟩ : ∃ f, fuel = f + 1 := ⟨fuel - 1, by omega⟩
    simp only [decodeGroups, if_pos (show si < src.size by omega),
      show src.size + 1 = src.size - 3 + 4 by omega, readQuantum_pair _ hsrc]
    simp
  | x :: y :: z :: rest, si, fuel, acc, hsrc, hfuel => by
    rw [ofString_base64Encode_cons_three] at hsrc
    -- the rest of the text starts four bytes on, after the full group
    have hrest : src.toList.drop (si + 4) = ofString (base64Encode rest) := by
      rw [← List.drop_drop, hsrc, List.drop_left' (length_ofString_encodeGroup_three x y z)]
    have hsize : si + 4 ≤ src.size := by
      have := congrArg List.length hsrc
      rw [List.length_append, length_ofString_encodeGroup_three] at this
      simp at this
      omega
    obtain ⟨fuel, rfl⟩ : ∃ f, fuel = f + 1 := ⟨fuel - 1, by omega⟩
    simp only [decodeGroups, if_pos (show si < src.size by omega),
      show src.size + 1 = src.size - 4 + 5 by omega, readQuantum_full _ hsrc]
    rw [decodeGroups_base64Encode src rest ([x, y, z] :: acc) hrest (by omega)]
    simp

/-- Decoding the base64 text of a byte string gives the byte string back. -/
theorem base64Decode_base64Encode (bs : Bytes) :
    base64Decode (ofString (base64Encode bs)) = .ok bs := by
  have h : decodeGroups (ofString (base64Encode bs)).toArray
      ((ofString (base64Encode bs)).length + 1) 0 [] = .ok ([].reverse.flatten ++ bs) :=
    decodeGroups_base64Encode _ bs [] (by simp) (by simp)
  simpa [base64Decode] using h

/-! ## Hex text -/

/-- A text spells a byte string in hex when each of its characters is the matching digit of
`Bytes.toHex`, a letter possibly in upper case. -/
def HexText (bs : Bytes) (t : List Char) : Prop :=
  List.Forall₂ (fun c d => c = d ∨ c = d.toUpper) t (Bytes.toHex bs).toList

theorem toList_toHex (bs : Bytes) :
    (Bytes.toHex bs).toList =
      bs.flatMap fun b => [Bytes.hexDigit (b.toNat / 16), Bytes.hexDigit (b.toNat % 16)] := by
  simp [Bytes.toHex, String.toList_join, Bytes.hexByte, List.flatMap_map]

/-- Each digit, in either case, is one byte that reads back as the digit's value. -/
theorem hexDigit_table : ∀ n : Fin 16,
    (String.utf8EncodeChar (Bytes.hexDigit n)).map hexDigitValue = [some n.val] ∧
    (String.utf8EncodeChar (Bytes.hexDigit n).toUpper).map hexDigitValue = [some n.val] := by
  decide

/-- No digit is blank, in either case. -/
theorem hexDigit_not_blank : ∀ n : Fin 16,
    Text.isBlank (Bytes.hexDigit n) = false ∧ Text.isBlank (Bytes.hexDigit n).toUpper = false := by
  decide

theorem hexDigit_byte {n : Nat} (hn : n < 16) {c : Char}
    (hc : c = Bytes.hexDigit n ∨ c = (Bytes.hexDigit n).toUpper) :
    ∃ b, String.utf8EncodeChar c = [b] ∧ hexDigitValue b = some n := by
  have h := hexDigit_table ⟨n, hn⟩
  rcases hc with rfl | rfl
  · exact List.map_eq_singleton_iff.mp h.1
  · exact List.map_eq_singleton_iff.mp h.2

theorem hexText_nil {t : List Char} (h : HexText [] t) : t = [] := by
  rwa [HexText, toList_toHex, List.flatMap_nil, List.forall₂_nil_right_iff] at h

/-- A text spelling a byte and more starts with the byte's two digits. -/
theorem hexText_cons {b : UInt8} {bs : Bytes} {t : List Char} (h : HexText (b :: bs) t) :
    ∃ c₁ c₂ t', t = c₁ :: c₂ :: t' ∧
      (c₁ = Bytes.hexDigit (b.toNat / 16) ∨ c₁ = (Bytes.hexDigit (b.toNat / 16)).toUpper) ∧
      (c₂ = Bytes.hexDigit (b.toNat % 16) ∨ c₂ = (Bytes.hexDigit (b.toNat % 16)).toUpper) ∧
      HexText bs t' := by
  rw [HexText, toList_toHex, List.flatMap_cons] at h
  obtain ⟨c₁, t₁, hc₁, h₁, rfl⟩ := List.forall₂_cons_right_iff.mp h
  obtain ⟨c₂, t₂, hc₂, h₂, rfl⟩ := List.forall₂_cons_right_iff.mp h₁
  exact ⟨c₁, c₂, t₂, rfl, hc₁, hc₂, by rwa [HexText, toList_toHex]⟩

/-- Hex text in any case decodes to the bytes it spells. -/
theorem hexDecode_hexText : ∀ (bs : Bytes) {t : List Char}, HexText bs t →
    hexDecode (t.flatMap String.utf8EncodeChar) = .ok bs
  | [], t, h => by
    rw [hexText_nil h]
    rfl
  | b :: bs, t, h => by
    obtain ⟨c₁, c₂, t', rfl, hc₁, hc₂, h'⟩ := hexText_cons h
    have hlt := b.toNat_lt
    obtain ⟨x₁, hx₁, hv₁⟩ := hexDigit_byte (by omega) hc₁
    obtain ⟨x₂, hx₂, hv₂⟩ := hexDigit_byte (by omega) hc₂
    rw [List.flatMap_cons, List.flatMap_cons, hx₁, hx₂]
    simp only [List.singleton_append, hexDecode, hv₁, hv₂, hexDecode_hexText bs h', Except.map]
    have hb : (b.toNat / 16 * 16 + b.toNat % 16).toUInt8 = b := by
      apply UInt8.toNat_inj.mp
      simp
      omega
    rw [hb]

/-- Hex text has no blank character. -/
theorem HexText.not_blank : ∀ {bs : Bytes} {t : List Char}, HexText bs t →
    ∀ c ∈ t, Text.isBlank c = false
  | [], t, h => by simp [hexText_nil h]
  | b :: bs, t, h => by
    obtain ⟨c₁, c₂, t', rfl, hc₁, hc₂, h'⟩ := hexText_cons h
    have hlt := b.toNat_lt
    have hd₁ := hexDigit_not_blank ⟨b.toNat / 16, by omega⟩
    have hd₂ := hexDigit_not_blank ⟨b.toNat % 16, by omega⟩
    intro c hc
    rcases List.mem_cons.mp hc with rfl | hc
    · rcases hc₁ with rfl | rfl
      exacts [hd₁.1, hd₁.2]
    rcases List.mem_cons.mp hc with rfl | hc
    · rcases hc₂ with rfl | rfl
      exacts [hd₂.1, hd₂.2]
    exact HexText.not_blank h' c hc

theorem HexText.length_eq {bs : Bytes} {t : List Char} (h : HexText bs t) :
    t.length = 2 * bs.length := by
  rw [List.Forall₂.length_eq h, toList_toHex, List.length_flatMap]
  simp [Nat.mul_comm]

end Ledger.Crypto
