import Mathlib
import Ledger.Auth.Check
/-!
# What the canonical string of a request determines

The canonical string joins its fields with colons, unescaped: when the method, path and
query hold no colon it gives back every field (`canonical_binds_fields`), and otherwise two
requests may share it (`canonical_path_colon_collides`).
-/

namespace Ledger

/-! ## The UTF-8 bytes of a string -/

theorem byteArray_toList_loop (bs : ByteArray) (i : Nat) (r : List UInt8) :
    ByteArray.toList.loop bs i r = r.reverse ++ bs.data.toList.drop i := by
  fun_induction ByteArray.toList.loop bs i r with
  | case1 i r h ih =>
    have hi : i < bs.data.toList.length := by simpa using h
    rw [ih, List.drop_eq_getElem_cons (l := bs.data.toList) hi]
    simp [ByteArray.get!, h]
  | case2 i r h =>
    rw [List.drop_eq_nil_of_le (by simpa using Nat.le_of_not_lt h)]
    simp

namespace Bytes

/-- The bytes of a string are the UTF-8 encodings of its characters, one after another. -/
theorem ofString_eq_flatMap (s : String) :
    ofString s = s.toList.flatMap String.utf8EncodeChar := by
  rw [ofString, String.toUTF8_eq_toByteArray, ← String.utf8Encode_toList, ByteArray.toList,
    byteArray_toList_loop]
  simp [List.utf8Encode]

/-- Two strings with the same bytes are the same string. -/
theorem ofString_injective : Function.Injective ofString := by
  intro s t h
  rw [ofString, ofString, String.toUTF8_eq_toByteArray, String.toUTF8_eq_toByteArray,
    ByteArray.toList, ByteArray.toList, byteArray_toList_loop, byteArray_toList_loop] at h
  simp only [List.reverse_nil, List.drop_zero, List.nil_append, Array.toList_inj] at h
  exact String.toByteArray_inj.mp (ByteArray.ext h)

/-- The colon byte stands only for the colon: every byte of a longer encoding is at least
`0x80`. -/
theorem colon_mem_utf8EncodeChar (c : Char) :
    (58 : UInt8) ∈ String.utf8EncodeChar c ↔ c = ':' := by
  have hv : c.toNat = c.val.toNat := rfl
  have hc : c = ':' ↔ c.toNat = 58 :=
    ⟨fun h => h ▸ rfl, fun h => Char.ext (UInt32.toNat_inj.mp (hv ▸ h))⟩
  rw [hc]
  unfold String.utf8EncodeChar
  dsimp only
  split_ifs <;> simp [UInt8.ext_iff] <;> omega

theorem colon_mem_ofString (s : String) : (58 : UInt8) ∈ ofString s ↔ ':' ∈ s.toList := by
  rw [ofString_eq_flatMap, List.mem_flatMap]
  constructor
  · rintro ⟨c, hc, hcolon⟩
    rwa [← (colon_mem_utf8EncodeChar c).mp hcolon]
  · intro h
    exact ⟨':', h, (colon_mem_utf8EncodeChar ':').mpr rfl⟩

end Bytes

/-! ## Characters that are never a colon -/

namespace Text

/-- Every run of the upper-case table maps its first code point above the colon, hence all
of its code points. -/
theorem upperRuns_above_colon : ∀ r ∈ upperRuns, (58 : Int) < r.1 + r.2.2.2 := by
  decide +kernel

theorem mapByRuns_eq_some {runs : List (Nat × Nat × Nat × Int)} {n m : Nat}
    (h : mapByRuns runs n = some m) : ∃ r ∈ runs, r.1 ≤ n ∧ m = ((n : Int) + r.2.2.2).toNat := by
  obtain ⟨r, hfind, rfl⟩ := Option.map_eq_some_iff.mp h
  have hr := List.find?_some hfind
  simp only [Bool.and_eq_true, decide_eq_true_eq, beq_iff_eq] at hr
  exact ⟨r, List.mem_of_find?_eq_some hfind, hr.1.1, rfl⟩

/-- Upper-casing never makes a colon out of another character. -/
theorem toUpper_eq_colon {c : Char} (h : toUpper c = ':') : c = ':' := by
  have hcode : (toUpper c).toNat = 58 := by rw [h]; rfl
  unfold toUpper at hcode
  split at hcode
  · -- ASCII: only the letters `a` to `z` change, and they land on `A` to `Z`
    unfold Char.toUpper at hcode
    split at hcode
    · rename_i hlower
      have hshift : ('A'.val - 'a'.val).toNat = 2 ^ 32 - 32 := by decide
      change (c.val + ('A'.val - 'a'.val)).toNat = 58 at hcode
      rw [UInt32.toNat_add, hshift] at hcode
      have hlow : 97 ≤ c.val.toNat := UInt32.le_iff_toNat_le.mp hlower.1
      have hval : c.val.toNat < 2 ^ 32 := c.val.toNat_lt
      omega
    · exact Char.ext (UInt32.toNat_inj.mp hcode)
  · split at hcode
    · -- beyond ASCII, every run lands above the colon
      rename_i m hm
      obtain ⟨r, hr, hle, rfl⟩ := mapByRuns_eq_some hm
      have habove := upperRuns_above_colon r hr
      rw [Char.toNat_ofNat] at hcode
      split at hcode
      · omega
      · simp at hcode
    · exact Char.ext (UInt32.toNat_inj.mp hcode)

theorem colon_not_mem_upperText {m : String} (h : ':' ∉ m.toList) :
    ':' ∉ (upperText m).toList := by
  simp only [upperText, String.toList_ofList, List.mem_map, not_exists, not_and]
  intro c hc hupper
  exact h (toUpper_eq_colon hupper ▸ hc)

end Text

namespace Number

/-- Digits read without failure are all decimal digits. -/
theorem scanDigits_ok_isDigit {limit acc n : Nat} {cs : List Char}
    (h : scanDigits limit acc cs = .ok n) : ∀ c ∈ cs, c.isDigit := by
  fun_induction scanDigits limit acc cs with
  | case1 => simp
  | case2 acc c rest hdigit next hover => simp at h
  | case3 acc c rest hdigit next hover ih =>
    intro d hd
    rcases List.mem_cons.mp hd with rfl | hrest
    · exact hdigit
    · exact ih h d hrest
  | case4 acc c rest hdigit => simp at h

/-- A text read as an integer holds only digits and signs. -/
theorem parseIntBits_ok_chars {bits : Nat} {s : String} {v : Int}
    (h : parseIntBits bits s = .ok v) : ∀ c ∈ s.toList, c.isDigit ∨ c = '-' ∨ c = '+' := by
  unfold parseIntBits at h
  split at h
  rename_i neg body hsplit
  have hbody : ∀ c ∈ body, c.isDigit := by
    split at h
    · cases h
    · split at h
      · cases h
      · rename_i n hscan
        exact scanDigits_ok_isDigit hscan
  -- the text is the digits read, after a sign or not
  intro c hc
  split at hsplit
  · rename_i r hminus
    obtain ⟨-, rfl⟩ := Prod.mk.inj hsplit
    rw [hminus] at hc
    rcases List.mem_cons.mp hc with rfl | hc
    · simp
    · exact .inl (hbody c hc)
  · rename_i r hplus
    obtain ⟨-, rfl⟩ := Prod.mk.inj hsplit
    rw [hplus] at hc
    rcases List.mem_cons.mp hc with rfl | hc
    · simp
    · exact .inl (hbody c hc)
  · obtain ⟨-, rfl⟩ := Prod.mk.inj hsplit
    exact .inl (hbody c hc)

end Number

namespace Auth

/-! ## Splitting at the first colon -/

/-- Two lists that put one separator after a part free of it agree on the part and on what
follows the separator. -/
theorem append_cons_eq_of_notMem {α : Type} {d : α} {x x' y y' : List α} (hx : d ∉ x)
    (hx' : d ∉ x') (h : x ++ d :: y = x' ++ d :: y') : x = x' ∧ y = y' := by
  induction x generalizing x' with
  | nil =>
    cases x' with
    | nil => simpa using h
    | cons c x' =>
      simp only [List.nil_append, List.cons_append, List.cons.injEq] at h
      exact absurd (h.1 ▸ List.mem_cons_self) hx'
  | cons c x ih =>
    cases x' with
    | nil =>
      simp only [List.nil_append, List.cons_append, List.cons.injEq] at h
      exact absurd (h.1 ▸ List.mem_cons_self) hx
    | cons c' x' =>
      simp only [List.cons_append, List.cons.injEq] at h
      obtain ⟨rfl, h⟩ := h
      obtain ⟨rfl, rfl⟩ := ih (fun hd => hx (List.mem_cons_of_mem _ hd))
        (fun hd => hx' (List.mem_cons_of_mem _ hd)) h
      exact ⟨rfl, rfl⟩

theorem canonical_eq_cons (method : String) (path : Bytes) (query timestamp : String)
    (body : Bytes) :
    canonical method path query timestamp body =
      upperMethod method ++ 58 :: (path ++ 58 :: (Bytes.ofString query ++ 58 ::
        (Bytes.ofString timestamp ++ 58 :: body))) := by
  simp [canonical]

theorem upperMethod_eq (m : String) : upperMethod m = Bytes.ofString (Text.upperText m) := rfl

theorem mem_dropWhile_or {α : Type} {p : α → Bool} {l : List α} {c : α} (h : c ∈ l) :
    p c ∨ c ∈ l.dropWhile p := by
  rw [← List.takeWhile_append_dropWhile (p := p) (l := l), List.mem_append] at h
  exact h.imp_left List.mem_takeWhile_imp

/-- Trimming drops blank characters only. -/
theorem mem_trimBlank_or {raw : String} {c : Char} (h : c ∈ raw.toList) :
    Text.isBlank c ∨ c ∈ (String.trimBlank raw).toList := by
  simp only [String.trimBlank, String.toList_ofList, List.mem_reverse]
  rcases mem_dropWhile_or (p := Text.isBlank) h with hblank | hrest
  · exact .inl hblank
  · exact mem_dropWhile_or (List.mem_reverse.mpr hrest)

/-- A timestamp header that reads as a number once trimmed holds no colon. -/
theorem colon_not_mem_of_parsed {raw : String} {ts : Int}
    (h : Number.parseInt64 (String.trimBlank raw) = .ok ts) : ':' ∉ raw.toList := by
  intro hc
  rcases mem_trimBlank_or hc with hblank | hcore
  · exact absurd hblank (by decide)
  · rcases Number.parseIntBits_ok_chars h ':' hcore with hdigit | hsign | hsign
    · exact absurd hdigit (by decide)
    · exact absurd hsign (by decide)
    · exact absurd hsign (by decide)

/-! ## The canonical string determines the request -/

/-- The canonical string binds the request: with no colon in methods, paths and queries, and
numeric timestamps, equal strings mean the same method up to case, path, query, timestamp and
body. -/
theorem canonical_binds_fields {m₁ m₂ q₁ q₂ t₁ t₂ : String} {p₁ p₂ b₁ b₂ : Bytes}
    (hm₁ : ':' ∉ m₁.toList) (hm₂ : ':' ∉ m₂.toList) (hp₁ : 58 ∉ p₁) (hp₂ : 58 ∉ p₂)
    (hq₁ : ':' ∉ q₁.toList) (hq₂ : ':' ∉ q₂.toList)
    (ht₁ : ∃ ts, Number.parseInt64 (String.trimBlank t₁) = .ok ts)
    (ht₂ : ∃ ts, Number.parseInt64 (String.trimBlank t₂) = .ok ts)
    (h : canonical m₁ p₁ q₁ t₁ b₁ = canonical m₂ p₂ q₂ t₂ b₂) :
    Text.upperText m₁ = Text.upperText m₂ ∧ p₁ = p₂ ∧ q₁ = q₂ ∧ t₁ = t₂ ∧ b₁ = b₂ := by
  -- no field before the body holds the separator, so the first four colons are separators
  have hfree : ∀ s : String, ':' ∉ s.toList → (58 : UInt8) ∉ Bytes.ofString s :=
    fun s hs hmem => hs ((Bytes.colon_mem_ofString s).mp hmem)
  obtain ⟨ts₁, hts₁⟩ := ht₁
  obtain ⟨ts₂, hts₂⟩ := ht₂
  rw [canonical_eq_cons, canonical_eq_cons, upperMethod_eq, upperMethod_eq] at h
  obtain ⟨hm, h⟩ := append_cons_eq_of_notMem (hfree _ (Text.colon_not_mem_upperText hm₁))
    (hfree _ (Text.colon_not_mem_upperText hm₂)) h
  obtain ⟨hp, h⟩ := append_cons_eq_of_notMem hp₁ hp₂ h
  obtain ⟨hq, h⟩ := append_cons_eq_of_notMem (hfree _ hq₁) (hfree _ hq₂) h
  obtain ⟨ht, hb⟩ := append_cons_eq_of_notMem (hfree _ (colon_not_mem_of_parsed hts₁))
    (hfree _ (colon_not_mem_of_parsed hts₂)) h
  exact ⟨Bytes.ofString_injective hm, hp, Bytes.ofString_injective hq,
    Bytes.ofString_injective ht, hb⟩

/-- A request in lower case and the same request in upper case, with a blank after the
timestamp. -/
theorem canonical_binds_fields_of_lower_method :
    ':' ∉ "get".toList ∧ ':' ∉ "GET".toList ∧ (58 : UInt8) ∉ Bytes.ofString "/api/accounts" ∧
      (58 : UInt8) ∉ Bytes.ofString "/api/accounts" ∧ ':' ∉ "limit=5".toList ∧
      ':' ∉ "limit=5".toList ∧
      (∃ ts, Number.parseInt64 (String.trimBlank "1000 ") = .ok ts) ∧
      canonical "get" (Bytes.ofString "/api/accounts") "limit=5" "1000 " [] =
        canonical "GET" (Bytes.ofString "/api/accounts") "limit=5" "1000 " [] ∧
      (Text.upperText "get" = Text.upperText "GET" ∧
        Bytes.ofString "/api/accounts" = Bytes.ofString "/api/accounts" ∧
        "limit=5" = "limit=5" ∧ "1000 " = "1000 " ∧ ([] : Bytes) = []) := by
  have hstamp : ∃ ts, Number.parseInt64 (String.trimBlank "1000 ") = .ok ts := ⟨1000, by decide⟩
  have hsame : canonical "get" (Bytes.ofString "/api/accounts") "limit=5" "1000 " [] =
      canonical "GET" (Bytes.ofString "/api/accounts") "limit=5" "1000 " [] := by decide +kernel
  have hm₁ : ':' ∉ "get".toList := by decide +kernel
  have hm₂ : ':' ∉ "GET".toList := by decide +kernel
  have hp : (58 : UInt8) ∉ Bytes.ofString "/api/accounts" := by decide +kernel
  have hq : ':' ∉ "limit=5".toList := by decide +kernel
  exact ⟨hm₁, hm₂, hp, hp, hq, hq, hstamp, hsame,
    canonical_binds_fields hm₁ hm₂ hp hp hq hq hstamp hstamp hsame⟩

/-- A colon in the path moves into the query without changing the canonical string: the
requests for `/a:b` with query `c` and for `/a` with query `b:c`, both stamped `1000`, are
signed alike, though their paths differ. -/
theorem canonical_path_colon_collides :
    Number.parseInt64 (String.trimBlank "1000") = .ok 1000 ∧
      canonical "GET" (Bytes.ofString "/a:b") "c" "1000" [] =
        canonical "GET" (Bytes.ofString "/a") "b:c" "1000" [] ∧
      Bytes.ofString "/a:b" ≠ Bytes.ofString "/a" := by
  refine ⟨by decide, by decide +kernel, by decide +kernel⟩

end Auth
end Ledger
