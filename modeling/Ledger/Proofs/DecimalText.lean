import Mathlib
import Ledger.Proofs.DecimalValue
/-!
# Reading the texts of a decimal back

Both texts of a decimal, canonical and fixed-point, read back as a decimal of the value
written (`parse_render`); the two-place text reads back as the value itself exactly when it
is a whole number of hundredths.
-/

namespace Ledger.Number

/-- The number a list of digit characters spells, read from the left. -/
def spelled (cs : List Char) : Nat := cs.foldl (fun acc c => acc * 10 + (c.toNat - 48)) 0

theorem foldl_spelled (acc : Nat) (l : List Char) :
    l.foldl (fun a c => a * 10 + (c.toNat - 48)) acc = acc * 10 ^ l.length + spelled l := by
  induction l generalizing acc with
  | nil => simp [spelled]
  | cons c l ih =>
    rw [List.foldl_cons, spelled, List.foldl_cons, ih, ih (0 * 10 + (c.toNat - 48))]
    simp only [List.length_cons, pow_succ]
    ring

theorem spelled_append (l m : List Char) :
    spelled (l ++ m) = spelled l * 10 ^ m.length + spelled m := by
  rw [spelled, List.foldl_append, foldl_spelled]
  rfl

theorem spelled_replicate_zero (t : Nat) : spelled (List.replicate t '0') = 0 := by
  induction t with
  | zero => rfl
  | succ t ih =>
    rw [List.replicate_succ', spelled_append, ih]
    rfl

/-- The digits of a number spell it. -/
theorem spelled_toDigits (n : Nat) : spelled (Nat.toDigits 10 n) = n := by
  induction n using Nat.strong_induction_on with
  | _ n ih =>
    by_cases hsmall : n < 10
    · rw [Nat.toDigits_of_lt_base hsmall, spelled, List.foldl_cons, List.foldl_nil,
        Nat.toNat_digitChar_sub_48_of_lt_ten hsmall]
      simp
    · -- the digits of `n / 10` and then the last one
      rw [Nat.toDigits_of_base_le (by omega) (by omega), spelled_append, ih (n / 10) (by omega)]
      simp only [List.length_singleton, pow_one, spelled, List.foldl_cons, List.foldl_nil,
        Nat.toNat_digitChar_sub_48_of_lt_ten (Nat.mod_lt n (by omega))]
      omega

theorem digitsValue_eq_some {cs : List Char} (hne : cs ≠ [])
    (hd : ∀ c ∈ cs, c.isDigit = true) : digitsValue cs = some (spelled cs) := by
  simp [digitsValue, List.isEmpty_iff, hne, List.all_eq_true.mpr hd, spelled]

end Ledger.Number

namespace Ledger.Decimal

open Number

/-! ## Reading plain text -/

theorem mem_signed_digits {neg : Bool} {ds : List Char} (hdig : ∀ c ∈ ds, c.isDigit = true)
    {c : Char} (hc : c ∈ (if neg then ['-'] else []) ++ ds) : c.isDigit = true ∨ c = '-' := by
  rcases List.mem_append.mp hc with hc | hc
  · right
    cases neg <;> simp_all
  · exact .inl (hdig c hc)

theorem ne_point_of_digit_or_minus {c : Char} (h : c.isDigit = true ∨ c = '-') : c ≠ '.' := by
  rcases h with h | rfl
  · rintro rfl
    exact absurd h (by decide)
  · decide

/-- A sign, if any, and digits read as the signed number the digits spell. -/
theorem parseBigInt_signed (neg : Bool) {ds : List Char} (hne : ds ≠ [])
    (hdig : ∀ c ∈ ds, c.isDigit = true) :
    parseBigInt (String.ofList ((if neg then ['-'] else []) ++ ds)) =
      some ((if neg then -1 else 1) * (spelled ds : Int)) := by
  have hval := digitsValue_eq_some hne hdig
  cases neg with
  | true => simp [parseBigInt, hval]
  | false =>
    -- the text starts with a digit, neither sign
    obtain ⟨c, ds', rfl⟩ := List.exists_cons_of_ne_nil hne
    have hc := hdig c List.mem_cons_self
    have hminus : c ≠ '-' := by
      rintro rfl
      exact absurd hc (by decide)
    have hplus : c ≠ '+' := by
      rintro rfl
      exact absurd hc (by decide)
    simp [parseBigInt, hval, hminus, hplus]

theorem findIdx?_exponent {cs : List Char}
    (h : ∀ c ∈ cs, c.isDigit = true ∨ c = '.' ∨ c = '-') :
    cs.findIdx? (fun c => c = 'e' || c = 'E') = none := by
  rw [List.findIdx?_eq_none_iff]
  intro c hc
  rcases h c hc with hd | rfl | rfl
  · have : c ≠ 'e' ∧ c ≠ 'E' := by
      constructor <;> rintro rfl <;> simp [Char.isDigit] at hd
    simp [this.1, this.2]
  · decide
  · decide

/-- Whole-number text reads as the number its digits spell. -/
theorem parse_signed_digits (neg : Bool) {ip : List Char} (hip : ip ≠ [])
    (hdig : ∀ c ∈ ip, c.isDigit = true) :
    parse (String.ofList ((if neg then ['-'] else []) ++ ip)) =
      .ok ⟨(if neg then -1 else 1) * (spelled ip : Int), 0⟩ := by
  have hnodot : ∀ c ∈ (if neg then ['-'] else []) ++ ip, c ≠ '.' :=
    fun c hc => ne_point_of_digit_or_minus (mem_signed_digits hdig hc)
  have hcount : ((if neg then ['-'] else []) ++ ip).count '.' = 0 :=
    List.count_eq_zero.mpr (fun h => hnodot _ h rfl)
  have hdot : ((if neg then ['-'] else []) ++ ip).findIdx? (· = '.') = none :=
    List.findIdx?_eq_none_iff.mpr (fun c hc => by simpa using hnodot c hc)
  have he : ((if neg then ['-'] else []) ++ ip).findIdx? (fun c => c = 'e' || c = 'E') = none :=
    findIdx?_exponent (fun c hc => (mem_signed_digits hdig hc).imp_right .inr)
  simp only [parse, String.toList_ofList, he, hcount, hdot, parseBigInt_signed neg hip hdig]
  simp [minExp, maxExp]

/-- Text with a point reads as the number all its digits spell, scaled down by the digits
after the point. -/
theorem parse_signed_point (neg : Bool) {ip fp : List Char} (hip : ip ≠ [])
    (hdig : ∀ c ∈ ip ++ fp, c.isDigit = true) (hlen : fp.length ≤ 2147483648) :
    parse (String.ofList ((if neg then ['-'] else []) ++ ip ++ '.' :: fp)) =
      .ok ⟨(if neg then -1 else 1) * (spelled (ip ++ fp) : Int), -(fp.length : Int)⟩ := by
  set head := (if neg then ['-'] else []) ++ ip with hhead
  have hipdig : ∀ c ∈ ip, c.isDigit = true := fun c hc => hdig c (List.mem_append_left _ hc)
  have hnodot : ∀ c ∈ head, c ≠ '.' := fun c hc =>
    ne_point_of_digit_or_minus (mem_signed_digits hipdig hc)
  have hchars : ∀ c ∈ head ++ '.' :: fp, c.isDigit = true ∨ c = '.' ∨ c = '-' := by
    intro c hc
    rcases List.mem_append.mp hc with hc | hc
    · exact (mem_signed_digits hipdig hc).imp_right .inr
    · rcases List.mem_cons.mp hc with rfl | hc
      · exact .inr (.inl rfl)
      · exact .inl (hdig c (List.mem_append_right _ hc))
  have hfpdot : fp.count '.' = 0 :=
    List.count_eq_zero.mpr (fun h => absurd (hdig _ (List.mem_append_right _ h)) (by decide))
  have hcount : (head ++ '.' :: fp).count '.' = 1 := by
    rw [List.count_append, List.count_eq_zero.mpr (fun h => hnodot _ h rfl), List.count_cons_self,
      hfpdot]
  have hdot : (head ++ '.' :: fp).findIdx? (· = '.') = some head.length := by
    rw [List.findIdx?_append,
      List.findIdx?_eq_none_iff.mpr (fun c hc => by simpa using hnodot c hc)]
    simp [List.findIdx?_cons]
  -- the point is cut out, leaving the whole and fractional digits side by side
  have htake : (head ++ '.' :: fp).take head.length = head := List.take_left' rfl
  have hdrop : (head ++ '.' :: fp).drop (head.length + 1) = fp := by
    rw [← List.drop_drop, List.drop_left' rfl]
    rfl
  have hlen' : (head ++ '.' :: fp).length - head.length - 1 = fp.length := by
    simp only [List.length_append, List.length_cons]
    omega
  have hint : parseBigInt (String.ofList (head ++ fp)) =
      some ((if neg then -1 else 1) * (spelled (ip ++ fp) : Int)) := by
    rw [hhead, List.append_assoc]
    exact parseBigInt_signed neg (List.append_ne_nil_of_left_ne_nil hip fp) hdig
  have hbounds : minExp ≤ -(fp.length : Int) ∧ -(fp.length : Int) ≤ maxExp := by
    simp only [minExp, maxExp]
    omega
  simp only [parse, String.toList_ofList, findIdx?_exponent hchars, hcount, hdot, htake, hdrop,
    hlen', hint]
  simp [hbounds]

/-- Plain decimal text, an optional minus, digits and optionally a point and more digits,
reads as the number the digits spell, scaled down by the digits after the point. -/
theorem parse_plain (neg : Bool) (ip fp : List Char) (hip : ip ≠ [])
    (hdig : ∀ c ∈ ip ++ fp, c.isDigit = true) (hlen : fp.length ≤ 2147483648) :
    parse (String.ofList ((if neg then ['-'] else []) ++ ip ++
        (if fp = [] then [] else '.' :: fp))) =
      .ok ⟨(if neg then -1 else 1) * (spelled (ip ++ fp) : Int), -(fp.length : Int)⟩ := by
  by_cases hfp : fp = []
  · subst hfp
    simpa using parse_signed_digits neg hip (by simpa using hdig)
  · rw [if_neg hfp]
    exact parse_signed_point neg hip hdig hlen

/-! ## Writing -/

theorem toList_natDigits (n : Nat) : (natDigits n).toList = Nat.toDigits 10 n :=
  Nat.toList_repr

/-- Trimming the trailing zeros of a fraction drops some number of zeros from its end. -/
theorem trailing_zeros (l : List Char) :
    ∃ t, l = (l.reverse.dropWhile (· == '0')).reverse ++ List.replicate t '0' := by
  have hzeros : l.reverse.takeWhile (· == '0') =
      List.replicate (l.reverse.takeWhile (· == '0')).length '0' := by
    rw [List.eq_replicate_iff]
    refine ⟨rfl, fun c hc => ?_⟩
    simpa using List.mem_takeWhile_imp hc
  refine ⟨(l.reverse.takeWhile (· == '0')).length, ?_⟩
  calc l = (l.reverse.takeWhile (· == '0') ++ l.reverse.dropWhile (· == '0')).reverse := by
        rw [List.takeWhile_append_dropWhile, List.reverse_reverse]
    _ = (l.reverse.dropWhile (· == '0')).reverse ++
          (l.reverse.takeWhile (· == '0')).reverse := List.reverse_append ..
    _ = _ := by
        conv_lhs => rw [hzeros, List.reverse_replicate]

/-- The fraction as written is the fraction less some trailing zeros, trimmed or not. -/
theorem trimmed_fraction (trim : Bool) (frac : List Char) :
    ∃ t, frac = (if trim then (frac.reverse.dropWhile (· == '0')).reverse else frac) ++
      List.replicate t '0' := by
  cases trim
  · exact ⟨0, by simp⟩
  · exact trailing_zeros frac

/-- The whole part and the fraction a decimal is written with, before trimming: the digits
of the coefficient cut `k` from the end, or `0` and the digits padded to `k` places. -/
theorem split_digits {ds : List Char} (hne : ds ≠ []) (hds : ∀ c ∈ ds, c.isDigit = true)
    (k : Nat) :
    let p := if ds.length > k then (ds.take (ds.length - k), ds.drop (ds.length - k))
      else (['0'], List.replicate (k - ds.length) '0' ++ ds)
    p.1 ≠ [] ∧ (∀ c ∈ p.1 ++ p.2, c.isDigit = true) ∧ p.2.length = k ∧
      spelled (p.1 ++ p.2) = spelled ds := by
  intro p
  by_cases hlong : ds.length > k
  · simp only [p, if_pos hlong, List.take_append_drop, List.length_drop]
    refine ⟨?_, hds, by omega, trivial⟩
    simp only [ne_eq, List.take_eq_nil_iff, not_or]
    exact ⟨by omega, hne⟩
  · simp only [p, if_neg hlong]
    refine ⟨by simp, ?_, by simp; omega, ?_⟩
    · intro c hc
      simp only [List.cons_append, List.nil_append, List.mem_cons, List.mem_append,
        List.mem_replicate] at hc
      rcases hc with rfl | ⟨-, rfl⟩ | hc
      · rfl
      · rfl
      · exact hds c hc
    · -- the leading `0` joins the padding zeros, which spell nothing
      rw [List.cons_append, List.nil_append,
        show '0' :: (List.replicate (k - ds.length) '0' ++ ds) =
          List.replicate (k - ds.length + 1) '0' ++ ds by rw [List.replicate_succ]; rfl,
        spelled_append, spelled_replicate_zero]
      simp

/-- The sign, the whole part and the fraction, with the point only before a fraction. -/
theorem signed_text (neg : Bool) (ip fp : List Char) :
    (if neg then "-" ++ (String.ofList ip ++
        if fp.isEmpty then "" else "." ++ String.ofList fp)
      else String.ofList ip ++ if fp.isEmpty then "" else "." ++ String.ofList fp) =
      String.ofList ((if neg then ['-'] else []) ++ ip ++ (if fp = [] then [] else '.' :: fp)) := by
  rw [← String.toList_inj]
  by_cases hfp : fp = [] <;> cases neg <;> simp [hfp]

/-- A decimal with a negative exponent is written as its sign, a whole part and, unless no
fraction digit is left after trimming, a point and the fraction; the digits spell the
coefficient once the trimmed zeros are put back. -/
theorem render_of_neg (d : Decimal) (trim : Bool) (hexp : d.exp < 0) :
    ∃ ip fp, ip ≠ [] ∧ (∀ c ∈ ip ++ fp, c.isDigit = true) ∧
      fp.length ≤ (-d.exp).toNat ∧
      spelled (ip ++ fp) * 10 ^ ((-d.exp).toNat - fp.length) = d.coef.natAbs ∧
      d.render trim = String.ofList ((if d.coef < 0 then ['-'] else []) ++ ip ++
        (if fp = [] then [] else '.' :: fp)) := by
  have hne : (natDigits d.coef.natAbs).toList ≠ [] := by
    rw [toList_natDigits]
    exact Nat.toDigits_ne_nil
  have hdig : ∀ c ∈ (natDigits d.coef.natAbs).toList, c.isDigit = true := by
    rw [toList_natDigits]
    intro c hc
    exact Nat.isDigit_of_mem_toDigits (by decide) (by decide) hc
  obtain ⟨hip, hdigits, hfrac, hspell⟩ := split_digits hne hdig (-d.exp).toNat
  simp only [render, if_neg (not_le.mpr hexp)]
  set ds := (natDigits d.coef.natAbs).toList with hds
  set k := (-d.exp).toNat with hk
  generalize (if ds.length > k then (ds.take (ds.length - k), ds.drop (ds.length - k))
    else (['0'], List.replicate (k - ds.length) '0' ++ ds)) = p at hip hdigits hfrac hspell ⊢
  obtain ⟨ip, frac⟩ := p
  simp only at hip hdigits hfrac hspell ⊢
  -- the fraction as written, with the `t` trimmed zeros after it
  obtain ⟨t, ht⟩ := trimmed_fraction trim frac
  generalize (if trim then (frac.reverse.dropWhile (· == '0')).reverse else frac) = fp at ht ⊢
  subst ht
  have hlen : fp.length + t = k := by simpa using hfrac
  refine ⟨ip, fp, hip, fun c hc => hdigits c ?_, by omega, ?_, ?_⟩
  · simp only [List.mem_append] at hc ⊢
    tauto
  · calc spelled (ip ++ fp) * 10 ^ (k - fp.length)
        = spelled (ip ++ fp ++ List.replicate t '0') := by
          rw [spelled_append (ip ++ fp), spelled_replicate_zero, List.length_replicate,
            show k - fp.length = t by omega, Nat.add_zero]
      _ = spelled ds := by rw [List.append_assoc, hspell]
      _ = d.coef.natAbs := by rw [hds, toList_natDigits, spelled_toDigits]
  · have htext := signed_text (decide (d.coef < 0)) ip fp
    simp only [decide_eq_true_eq] at htext
    exact htext

/-- An integer's text is its sign and the digits of its magnitude. -/
theorem toString_int (m : Int) :
    toString m = String.ofList ((if m < 0 then ['-'] else []) ++ Nat.toDigits 10 m.natAbs) := by
  rw [← String.toList_inj, Int.toString_eq_repr, Int.repr_eq_if]
  by_cases h : 0 ≤ m
  · simp [h, Nat.toList_repr, not_lt.mpr h]
    congr 1
    omega
  · simp [h, Nat.toList_repr, lt_of_not_ge h]
    congr 1
    omega

/-- An integer is its sign times its magnitude. -/
theorem sign_mul_natAbs (m : Int) : (if m < 0 then -1 else 1) * (m.natAbs : Int) = m := by
  split <;> omega

/-- Every text of a decimal is a sign, digits and perhaps a point. -/
theorem render_chars (d : Decimal) (trim : Bool) :
    ∀ c ∈ (d.render trim).toList, c.isDigit = true ∨ c = '.' ∨ c = '-' := by
  intro c hc
  by_cases hexp : 0 ≤ d.exp
  · -- a whole number
    have htext : d.render trim = toString (d.coef * Int.pow 10 d.exp.toNat) := by
      simp [render, hexp]
    rw [htext, toString_int, String.toList_ofList, List.mem_append] at hc
    rcases hc with hc | hc
    · split at hc <;> simp_all
    · exact .inl (Nat.isDigit_of_mem_toDigits (by decide) (by decide) hc)
  · obtain ⟨ip, fp, -, hdig, -, -, htext⟩ := render_of_neg d trim (by omega)
    rw [htext, String.toList_ofList, List.mem_append, List.mem_append] at hc
    rcases hc with (hc | hc) | hc
    · split at hc <;> simp_all
    · exact .inl (hdig c (List.mem_append_left _ hc))
    · split at hc
      · simp at hc
      · rcases List.mem_cons.mp hc with rfl | hc
        · exact .inr (.inl rfl)
        · exact .inl (hdig c (List.mem_append_right _ hc))

/-- Without trimming, a decimal with a negative exponent is written with exactly as many
fraction digits as its exponent asks, and the digits spell its coefficient. -/
theorem render_false_of_neg (d : Decimal) (hexp : d.exp < 0) :
    ∃ ip fp, ip ≠ [] ∧ (∀ c ∈ ip ++ fp, c.isDigit = true) ∧ fp.length = (-d.exp).toNat ∧
      spelled (ip ++ fp) = d.coef.natAbs ∧
      d.render false = String.ofList ((if d.coef < 0 then ['-'] else []) ++ ip ++
        (if fp = [] then [] else '.' :: fp)) := by
  have hne : (natDigits d.coef.natAbs).toList ≠ [] := by
    rw [toList_natDigits]
    exact Nat.toDigits_ne_nil
  have hdig : ∀ c ∈ (natDigits d.coef.natAbs).toList, c.isDigit = true := by
    rw [toList_natDigits]
    intro c hc
    exact Nat.isDigit_of_mem_toDigits (by decide) (by decide) hc
  obtain ⟨hip, hdigits, hfrac, hspell⟩ := split_digits hne hdig (-d.exp).toNat
  simp only [render, if_neg (not_le.mpr hexp)]
  set ds := (natDigits d.coef.natAbs).toList with hds
  set k := (-d.exp).toNat with hk
  generalize (if ds.length > k then (ds.take (ds.length - k), ds.drop (ds.length - k))
    else (['0'], List.replicate (k - ds.length) '0' ++ ds)) = p at hip hdigits hfrac hspell ⊢
  obtain ⟨ip, frac⟩ := p
  simp only [Bool.false_eq_true, if_false] at hip hdigits hfrac hspell ⊢
  refine ⟨ip, frac, hip, hdigits, hfrac, ?_, ?_⟩
  · rw [hspell, hds, toList_natDigits, spelled_toDigits]
  · have htext := signed_text (decide (d.coef < 0)) ip frac
    simp only [decide_eq_true_eq] at htext
    exact htext

/-! ## Round trip -/

/-- Every text of a decimal in range reads back as a decimal of the same value. -/
theorem parse_render (d : Decimal) (trim : Bool) (hexp : minExp ≤ d.exp) :
    ∃ x, parse (d.render trim) = .ok x ∧ x.toRat = d.toRat := by
  by_cases hnn : 0 ≤ d.exp
  · -- a whole number: the digits of the coefficient scaled up
    set m := d.coef * Int.pow 10 d.exp.toNat with hm
    have hrender : d.render trim = toString m := by simp [render, hnn, hm]
    have h := parse_signed_digits (decide (m < 0))
      (show Nat.toDigits 10 m.natAbs ≠ [] from Nat.toDigits_ne_nil)
      (fun c hc => Nat.isDigit_of_mem_toDigits (by decide) (by decide) hc)
    simp only [decide_eq_true_eq] at h
    rw [← toString_int, ← hrender] at h
    refine ⟨_, h, ?_⟩
    rw [spelled_toDigits, sign_mul_natAbs]
    simp only [toRat, hm, intPow_eq_pow, zpow_zero, mul_one, Int.cast_mul, Int.cast_pow,
      Int.cast_ofNat]
    rw [← zpow_natCast, Int.toNat_of_nonneg hnn]
  · -- a point and the fraction, of at most the `-d.exp` places the range allows
    obtain ⟨ip, fp, hip, hdig, hfp, hspell, hrender⟩ := render_of_neg d trim (by omega)
    have hlen : fp.length ≤ 2147483648 := by
      simp only [minExp] at hexp
      omega
    have h := parse_plain (decide (d.coef < 0)) ip fp hip hdig hlen
    simp only [decide_eq_true_eq, ← hrender] at h
    refine ⟨_, h, ?_⟩
    -- the trimmed zeros put back make up the rest of the exponent
    set sg : Int := if d.coef < 0 then -1 else 1
    have hpow : (10 : ℚ) ^ (-(fp.length : Int)) =
        (10 : ℚ) ^ ((-d.exp).toNat - fp.length) * (10 : ℚ) ^ d.exp := by
      rw [← zpow_natCast, ← zpow_add₀ (by norm_num), Nat.cast_sub hfp]
      congr 1
      omega
    calc toRat ⟨sg * spelled (ip ++ fp), -(fp.length : Int)⟩
        = (sg : ℚ) * spelled (ip ++ fp) * (10 : ℚ) ^ (-(fp.length : Int)) := by simp [toRat]
      _ = (sg : ℚ) * (spelled (ip ++ fp) * 10 ^ ((-d.exp).toNat - fp.length) : ℕ) *
          (10 : ℚ) ^ d.exp := by
          rw [hpow]
          push_cast
          ring
      _ = ((sg * (d.coef.natAbs : Int) : Int) : ℚ) * (10 : ℚ) ^ d.exp := by
          rw [hspell, Int.cast_mul, Int.cast_natCast]
      _ = d.toRat := by rw [sign_mul_natAbs, toRat]

/-- A decimal with no positive exponent, in range, reads back from its untrimmed text as
itself: the text keeps every place of the exponent. -/
theorem parse_render_false {d : Decimal} (hle : d.exp ≤ 0) (hge : minExp ≤ d.exp) :
    parse (d.render false) = .ok d := by
  by_cases hzero : d.exp = 0
  · -- a whole number: the digits of the coefficient
    have hrender : d.render false = toString d.coef := by simp [render, hzero]
    have h := parse_signed_digits (decide (d.coef < 0))
      (show Nat.toDigits 10 d.coef.natAbs ≠ [] from Nat.toDigits_ne_nil)
      (fun c hc => Nat.isDigit_of_mem_toDigits (by decide) (by decide) hc)
    simp only [decide_eq_true_eq] at h
    rw [← toString_int, ← hrender, spelled_toDigits, sign_mul_natAbs] at h
    rw [h, ← hzero]
  · obtain ⟨ip, fp, hip, hdig, hlen, hspell, hrender⟩ := render_false_of_neg d (by omega)
    have hlen' : fp.length ≤ 2147483648 := by
      simp only [minExp] at hge
      omega
    have h := parse_plain (decide (d.coef < 0)) ip fp hip hdig hlen'
    simp only [decide_eq_true_eq] at h
    rw [hrender, h, hspell, sign_mul_natAbs, hlen, show -(((-d.exp).toNat : Int)) = d.exp by omega]

/-! ## Two places -/

/-- Rounding lands on the exponent of the places asked for. -/
theorem round_exp (d : Decimal) (places : Int) : (d.round places).exp = -places := by
  unfold round
  split
  · assumption
  · rfl

/-- Rescaling to an exponent at which the value is a whole multiple of the unit is exact. -/
theorem coefAt_of_toRat_eq {d : Decimal} {e M : Int} (h : d.toRat = M * (10 : ℚ) ^ e) :
    d.coefAt e = M := by
  by_cases he : e ≤ d.exp
  · have hat := coefAt_mul_of_le he
    rw [h] at hat
    exact_mod_cast mul_right_cancel₀ (zpow_ne_zero e (by norm_num)) hat
  · -- the coefficient is `M` followed by `e - d.exp` zeros, which the division drops
    obtain ⟨k, hk⟩ : ∃ k : ℕ, e - d.exp = k := ⟨(e - d.exp).toNat, by omega⟩
    have hscaled : (d.coef : ℚ) * (10 : ℚ) ^ d.exp =
        ((M * 10 ^ k : ℤ) : ℚ) * (10 : ℚ) ^ d.exp := by
      rw [← toRat, h, show e = k + d.exp by omega, zpow_add₀ (by norm_num), zpow_natCast]
      push_cast
      ring
    have hcoef : d.coef = M * 10 ^ k := by
      exact_mod_cast mul_right_cancel₀ (zpow_ne_zero d.exp (by norm_num)) hscaled
    simp only [coefAt, if_neg he, intPow_eq_pow, hk, Int.toNat_natCast, hcoef]
    exact Int.mul_tdiv_cancel M (pow_ne_zero k (by norm_num))

/-- A half added away from zero is dropped again by the division, when the tenths are zero. -/
theorem tdiv_ten_of_half (N : Int) :
    (if 10 * N < 0 then 10 * N - 5 else 10 * N + 5).tdiv 10 = N := by
  split
  · rw [show 10 * N - 5 = -(10 * -N + 5) by ring, Int.neg_tdiv,
      Int.tdiv_eq_ediv_of_nonneg (by omega)]
    omega
  · rw [Int.tdiv_eq_ediv_of_nonneg (by omega)]
    omega

/-- Rounding to two places keeps the value exactly when it is a whole number of hundredths. -/
theorem toRat_round_two_iff (d : Decimal) :
    (d.round 2).toRat = d.toRat ↔ (d.toRat * 100).den = 1 := by
  constructor
  · intro h
    have hwhole : (d.round 2).toRat * 100 = (d.round 2).coef := by
      rw [toRat, round_exp]
      norm_num
      ring
    rw [← h, hwhole, Rat.den_intCast]
  · intro h
    set N := (d.toRat * 100).num
    have hN : d.toRat = N * (10 : ℚ) ^ (-2 : Int) := by
      rw [Rat.coe_int_num_of_den_eq_one h]
      norm_num
      ring
    unfold round
    split
    · rfl
    · -- the thousandths are `10 * N`, so the rounding half is dropped
      have hc : d.coefAt (-2 - 1) = 10 * N := by
        apply coefAt_of_toRat_eq
        rw [hN]
        norm_num
        ring
      simp only [hc, tdiv_ten_of_half]
      rw [hN]
      rfl

/-- The two-place text and the canonical text of a decimal in range both read back as
decimals: the canonical one as the value itself, the two-place one as the same value exactly
when the value is a whole number of hundredths. -/
theorem fixed_two_reads_back (d : Decimal) (hexp : minExp ≤ d.exp) :
    ∃ x y, parse (d.toFixed 2) = .ok x ∧ parse d.toText = .ok y ∧ y.toRat = d.toRat ∧
      (x.toRat = y.toRat ↔ (d.toRat * 100).den = 1) := by
  have hround : minExp ≤ (d.round 2).exp := by
    rw [round_exp]
    decide
  obtain ⟨x, hx, hxv⟩ := parse_render (d.round 2) false hround
  obtain ⟨y, hy, hyv⟩ := parse_render d true hexp
  refine ⟨x, y, hx, hy, hyv, ?_⟩
  rw [hxv, hyv]
  exact toRat_round_two_iff d

end Ledger.Decimal
