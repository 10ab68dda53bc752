import Ledger.Command.Signer
import Ledger.Http.Api
import Ledger.Proofs.Authentication
import Ledger.Proofs.CanonicalBinding
/-!
# What the signing command signs and what the front checks

The front accepts the headers the signing command prints exactly when the target's path
decodes to the path as written (`signer_headers_accepted_of_plain_path`); a path holding a
percent escape is refused (`escaped_path_signature_refused`).
-/

namespace Ledger

/-! ## Texts without blanks -/

theorem dropWhile_of_forall_false {α : Type} {p : α → Bool} {l : List α}
    (h : ∀ a ∈ l, p a = false) : l.dropWhile p = l := by
  cases l with
  | nil => rfl
  | cons a l => simp [List.dropWhile, h a List.mem_cons_self]

/-- Trimming leaves a text without blank characters as it is. -/
theorem trimBlank_of_forall_not_blank {s : String}
    (h : ∀ c ∈ s.toList, Text.isBlank c = false) : String.trimBlank s = s := by
  have hrev : ∀ c ∈ s.toList.reverse, Text.isBlank c = false := by simpa using h
  simp only [String.trimBlank, dropWhile_of_forall_false h, dropWhile_of_forall_false hrev,
    List.reverse_reverse, String.ofList_toList]

theorem isBlank_of_isDigit {c : Char} (h : c.isDigit) : Text.isBlank c = false := by
  have hv : c.toNat = c.val.toNat := rfl
  simp only [Char.isDigit, Bool.and_eq_true, decide_eq_true_eq] at h
  have hlo : 48 ≤ c.toNat := by rw [hv]; simpa using UInt32.le_iff_toNat_le.mp h.1
  have hhi : c.toNat ≤ 57 := by rw [hv]; simpa using UInt32.le_iff_toNat_le.mp h.2
  simp only [Text.isBlank]
  rw [if_pos (by omega)]
  simp only [Bool.or_eq_false_iff, beq_eq_false_iff_ne, Bool.and_eq_false_iff,
    decide_eq_false_iff_not]
  omega

/-! ## A printed number reads back as itself -/

namespace Number

/-- Digits are read from the left: reading `xs ++ ys` reads `ys` on from the value of `xs`. -/
theorem scanDigits_append (limit acc : Nat) (xs ys : List Char) :
    scanDigits limit acc (xs ++ ys) = scanDigits limit acc xs >>= (scanDigits limit · ys) := by
  induction xs generalizing acc with
  | nil => rfl
  | cons c xs ih =>
    simp only [List.cons_append, scanDigits]
    split
    · split
      · rfl
      · exact ih _
    · rfl

theorem scanDigits_digitChar {limit acc d : Nat} (hd : d < 10) (h : acc * 10 + d ≤ limit) :
    scanDigits limit acc [Nat.digitChar d] = .ok (acc * 10 + d) := by
  have hdigit : (Nat.digitChar d).isDigit = true := by simp [Nat.isDigit_digitChar, hd]
  simp only [scanDigits, hdigit, if_true, Nat.toNat_digitChar_sub_48_of_lt_ten hd]
  rw [if_neg (by omega)]

/-- The decimal digits of a number within the limit read back as the number. -/
theorem scanDigits_toDigits {limit : Nat} (n : Nat) (h : n ≤ limit) :
    scanDigits limit 0 (Nat.toDigits 10 n) = .ok n := by
  -- the digits of `n` are those of `n / 10` followed by the last one
  induction n using Nat.strong_induction_on with
  | _ n ih =>
    by_cases hsmall : n < 10
    · rw [Nat.toDigits_of_lt_base hsmall, scanDigits_digitChar hsmall (by omega)]
      simp
    · have hhigh : scanDigits limit 0 (Nat.toDigits 10 (n / 10)) = .ok (n / 10) :=
        ih (n / 10) (by omega) (by omega)
      rw [Nat.toDigits_of_base_le (by omega) (by omega), scanDigits_append, hhigh]
      have hlast : scanDigits limit (n / 10) [Nat.digitChar (n % 10)] = .ok (n / 10 * 10 + n % 10) :=
        scanDigits_digitChar (Nat.mod_lt n (by omega)) (by omega)
      rw [Nat.div_add_mod'] at hlast
      exact hlast

/-- The text of an integer that is not negative is its decimal digits. -/
theorem toList_toString {t : Int} (h0 : 0 ≤ t) : (toString t).toList = Nat.toDigits 10 t.toNat := by
  rw [Int.toString_eq_repr, Int.repr_eq_if, if_pos h0, Nat.toList_repr]

/-- A 64-bit integer that is not negative, printed, reads back as itself. -/
theorem parseInt64_toString {t : Int} (h0 : 0 ≤ t) (h : t < 9223372036854775808) :
    parseInt64 (toString t) = .ok t := by
  obtain ⟨c, rest, hcs⟩ :=
    List.exists_cons_of_ne_nil (Nat.toDigits_ne_nil (b := 10) (n := t.toNat))
  have hc : c.isDigit :=
    Nat.isDigit_of_mem_toDigits (by decide) (by decide) (hcs ▸ List.mem_cons_self)
  unfold parseInt64 parseIntBits
  split
  rename_i neg body hsplit
  rw [toList_toString h0, hcs] at hsplit
  -- the text starts with a digit, not a sign
  split at hsplit
  · rename_i r hminus
    obtain ⟨rfl, -⟩ := List.cons.inj hminus
    simp at hc
  · rename_i r hplus
    obtain ⟨rfl, -⟩ := List.cons.inj hplus
    simp at hc
  · obtain ⟨rfl, rfl⟩ := Prod.mk.inj hsplit
    have hfits : t.toNat < Nat.pow 2 (64 - 1) := by
      have hpow : Nat.pow 2 (64 - 1) = 9223372036854775808 := rfl
      omega
    have hbound : t.toNat ≤ Nat.pow 2 64 - 1 := by
      have hpow : Nat.pow 2 64 - 1 = 18446744073709551615 := rfl
      omega
    rw [← hcs, scanDigits_toDigits t.toNat hbound]
    simp only [List.isEmpty_iff, Nat.toDigits_ne_nil, if_false, if_pos hfits, Bool.false_eq_true,
      Int.toNat_of_nonneg h0]

/-- A printed integer that is not negative holds no blank, so trimming keeps it. -/
theorem trimBlank_toString {t : Int} (h0 : 0 ≤ t) : String.trimBlank (toString t) = toString t := by
  apply trimBlank_of_forall_not_blank
  intro c hc
  rw [toList_toString h0] at hc
  exact isBlank_of_isDigit (Nat.isDigit_of_mem_toDigits (by decide) (by decide) hc)

end Number

/-! ## A signature is never blank -/

namespace Crypto

theorem compress_size (h : Array UInt32) (block : List UInt8) : (compress h block).size = 8 := by
  unfold compress
  dsimp only
  rfl

theorem compressBlocks_size {h : Array UInt32} (hh : h.size = 8) (n : Nat) (bs : List UInt8) :
    (compressBlocks h n bs).size = 8 := by
  induction n generalizing h bs with
  | zero => exact hh
  | succ n ih => exact ih (compress_size _ _) _

/-- A SHA-256 digest is 32 bytes: eight words of the hash state. -/
theorem sha256_length (msg : Bytes) : (sha256 msg).length = 32 := by
  have hinit : initialHash.size = 8 := by simp [initialHash]
  have hsize : (compressAll initialHash (msg ++ padding msg.length)).size = 8 :=
    compressBlocks_size hinit _ _
  simp [sha256, wordBytes, List.length_flatten, Function.comp_def, hsize]

theorem hmacSha256_length (key msg : Bytes) : (hmacSha256 key msg).length = 32 :=
  sha256_length _

theorem alphabet_not_blank_of_mem {c : Char} (hc : c ∈ alphabet.toList) :
    Text.isBlank c = false := by
  have hall : (alphabet.toList.all fun c => !Text.isBlank c) = true := by decide +kernel
  simpa using List.all_eq_true.mp hall c hc

theorem alphabet_not_blank (k : Nat) : Text.isBlank alphabet[k % 64]! = false := by
  have hsize : alphabet.size = 64 := by decide +kernel
  rw [getElem!_pos alphabet (k % 64) (by rw [hsize]; exact Nat.mod_lt _ (by decide))]
  exact alphabet_not_blank_of_mem (Array.getElem_mem_toList _)

/-- Every group encodes to text starting with a symbol of the alphabet. -/
theorem encodeGroup_not_blank (g : List UInt8) :
    ∃ c ∈ (encodeGroup g).toList, Text.isBlank c = false := by
  unfold encodeGroup
  dsimp only
  split <;>
    exact ⟨_, by rw [String.toList_ofList]; exact List.mem_cons_self, alphabet_not_blank _⟩

theorem groupsOfThree_go_append (bs : Bytes) (acc : List (List UInt8)) :
    ∃ rest, groupsOfThree.go bs acc = acc.reverse ++ rest := by
  fun_induction groupsOfThree.go bs acc with
  | case1 acc => exact ⟨[], by simp⟩
  | case2 bs acc h ih =>
    obtain ⟨rest, hr⟩ := ih
    exact ⟨bs.take 3 :: rest, by rw [hr]; simp⟩

theorem groupsOfThree_of_ne_nil {bs : Bytes} (h : bs ≠ []) :
    ∃ rest, groupsOfThree bs = bs.take 3 :: rest := by
  obtain ⟨rest, hr⟩ := groupsOfThree_go_append (bs.drop 3) [bs.take 3]
  refine ⟨rest, ?_⟩
  rw [groupsOfThree, groupsOfThree.go, dif_neg h, hr]
  rfl

/-- The base64 text of bytes holds a character that is not blank. -/
theorem base64Encode_not_blank {bs : Bytes} (h : bs ≠ []) :
    ∃ c ∈ (base64Encode bs).toList, Text.isBlank c = false := by
  obtain ⟨rest, hr⟩ := groupsOfThree_of_ne_nil h
  obtain ⟨c, hc, hblank⟩ := encodeGroup_not_blank (bs.take 3)
  refine ⟨c, ?_, hblank⟩
  rw [base64Encode, hr, List.map_cons, String.join_cons, String.toList_append]
  exact List.mem_append_left _ hc

end Crypto

namespace Auth

/-- A signature stays non-empty once trimmed, so the front never takes it for missing. -/
theorem trimBlank_sign_ne_empty (secret method : String) (path : Bytes) (query timestamp : String)
    (body : Bytes) : String.trimBlank (sign secret method path query timestamp body) ≠ "" := by
  have hdigest : Crypto.hmacSha256 (Bytes.ofString secret)
      (canonical method path query timestamp body) ≠ [] := by
    rw [← List.length_pos_iff, Crypto.hmacSha256_length]
    decide
  obtain ⟨c, hc, hblank⟩ := Crypto.base64Encode_not_blank hdigest
  rcases mem_trimBlank_or hc with hb | hkept
  · rw [hblank] at hb
    cases hb
  · intro hempty
    simp only [sign, hmacText] at hempty
    rw [hempty] at hkept
    simp at hkept

/-- A stamp printed at a positive 64-bit instant is fresh at every clock reading from that
instant up to `maxAge` milliseconds after it. -/
theorem freshStamp_toString {maxAge : Int} {now : Instant} {t : Int} (hpos : 0 < t)
    (hfits : t < 9223372036854775808) (hafter : t ≤ now.toMillis)
    (hwithin : now.toMillis - t ≤ maxAge) : FreshStamp maxAge now (toString t) t :=
  ⟨by rw [Number.trimBlank_toString (by omega), Number.parseInt64_toString (by omega) hfits],
    hpos, hafter, hwithin⟩

/-- Two canonical strings that differ only in the path agree exactly when the paths do. -/
theorem canonical_eq_iff_path (method : String) (p₁ p₂ : Bytes) (query timestamp : String)
    (body : Bytes) :
    canonical method p₁ query timestamp body = canonical method p₂ query timestamp body ↔
      p₁ = p₂ := by
  simp only [canonical, List.append_assoc, List.append_cancel_left_eq,
    List.append_cancel_right_eq]

end Auth

/-! ## The signing command and the front -/

namespace Command

open Auth

/-- A run of the signing command that signs a request: its flags read as `f`, no secret to
seal, a key and a secret given, and the body read as `body` (from the file when one is named,
else from the flag). -/
structure Signs (host : Host) (args : List String) (f : Flags) (body : Bytes) : Prop where
  flags : readFlags (signerFlags host) args = .ok f
  noSeal : f.get "seal" = ""
  key : f.get "api-key" ≠ ""
  secret : f.get "secret" ≠ ""
  body : (if (f.get "body-file").isEmpty then .ok (Bytes.ofString (f.get "body"))
    else host.readFile (f.get "body-file")) = .ok body

/-- The lines the signing command prints: the API key, its clock as the time stamp, and the
signature of the request as its flags give it, with that stamp. -/
theorem runSigner_prints {host : Host} {args : List String} {f : Flags} {body : Bytes}
    (h : Signs host args f body) :
    runSigner host args =
      { stdout := ["X-API-KEY: " ++ f.get "api-key",
          "X-TIMESTAMP: " ++ toString host.clockMillis,
          "X-HMAC-SIGNATURE: " ++ sign (f.get "secret") (f.get "method")
            (Bytes.ofString (f.get "path")) (f.get "query") (toString host.clockMillis) body]
        ending := .exit 0 } := by
  have hnoseal : (f.get "seal").isEmpty = true := by simp [h.noSeal]
  have hkeyed : (f.get "api-key").isEmpty = false := by simpa using h.key
  have hsecreted : (f.get "secret").isEmpty = false := by simpa using h.secret
  simp only [runSigner, h.flags, hnoseal, hkeyed, hsecreted, Bool.not_true, Bool.or_false,
    Bool.false_eq_true, if_false]
  rw [h.body]

/-- A request sent as the signing command describes it: the method and raw query given to
the command, and the three values it printed as headers. The path is not among them: the
front reads it decoded from the target. -/
structure Carries (f : Flags) (stamp signature : String) (req : Http.Request) : Prop where
  method : req.method = f.get "method"
  query : req.url.rawQuery = f.get "query"
  key : req.headers.get "X-API-KEY" = f.get "api-key"
  stamp : req.headers.get "X-TIMESTAMP" = stamp
  signature : req.headers.get "X-HMAC-SIGNATURE" = signature

/-- The front rebuilds the canonical string the signing command signed exactly when the
target's path decodes to the path signed, and then accepts the printed headers within the
allowed skew. -/
theorem signer_headers_accepted_of_plain_path {host : Host} {args : List String} {f : Flags}
    {body : Bytes} (hsigns : Signs host args f body) {reg : Registry} {c : Client}
    (hclient : reg.lookup (f.get "api-key") = some c) (hsecret : c.secretKey = f.get "secret")
    (hkey : String.trimBlank (f.get "api-key") ≠ "")
    (hinstant : 0 < host.clockMillis ∧ host.clockMillis < 9223372036854775808)
    {skew : Int} {now : Instant}
    (hclock : host.clockMillis ≤ now.toMillis ∧
      now.toMillis - host.clockMillis ≤ (effectiveSkew skew).tdiv 1000000) :
    ∃ stamp signature,
      (runSigner host args).stdout = ["X-API-KEY: " ++ f.get "api-key",
        "X-TIMESTAMP: " ++ stamp, "X-HMAC-SIGNATURE: " ++ signature] ∧
      ∀ req : Http.Request, Carries f stamp signature req →
        (canonical req.method req.url.path req.url.rawQuery stamp body =
            canonical (f.get "method") (Bytes.ofString (f.get "path")) (f.get "query") stamp body ↔
          req.url.path = Bytes.ofString (f.get "path")) ∧
        (req.url.path = Bytes.ofString (f.get "path") →
          authenticate reg skew now (req.toAuth body) = .ok ⟨c.apiKey, c.name, c.roles.getD []⟩) := by
  let stamp := toString host.clockMillis
  refine ⟨stamp, sign (f.get "secret") (f.get "method") (Bytes.ofString (f.get "path"))
    (f.get "query") stamp body, by rw [runSigner_prints hsigns], fun req hcarries => ⟨?_, ?_⟩⟩
  · rw [hcarries.method, hcarries.query]
    exact canonical_eq_iff_path _ _ _ _ _ _
  · intro hpath
    apply authenticate_of_signed
    -- the front reads back every value the command printed
    have hfresh : FreshStamp ((effectiveSkew skew).tdiv 1000000) now stamp host.clockMillis :=
      freshStamp_toString hinstant.1 hinstant.2 hclock.1 hclock.2
    refine ⟨?_, ?_, ⟨host.clockMillis, ?_⟩, ?_, ?_⟩
    · simpa [Http.Request.toAuth, hcarries.key] using hkey
    · simpa [Http.Request.toAuth, hcarries.signature] using trimBlank_sign_ne_empty _ _ _ _ _ _
    · simpa [Http.Request.toAuth, hcarries.stamp] using hfresh
    · simpa [Http.Request.toAuth, hcarries.key] using hclient
    · simp only [Http.Request.toAuth, hcarries.signature, hcarries.method, hcarries.query,
        hcarries.stamp, hpath, hsecret]

/-- The command run for a registered client on `/api/transactions` with no body, and a front
of the default skew reading its clock at the signing instant. -/
theorem signer_headers_accepted_of_plain_path_at_signing :
    let host : Host := { clockMillis := 1740052800000 }
    let args := ["-api-key", "test-api-key-123", "-secret", "test-secret-key-123",
      "-method", "GET", "-path", "/api/transactions"]
    let f : Flags := ⟨[("api-key", "test-api-key-123"), ("secret", "test-secret-key-123"),
      ("method", "GET"), ("path", "/api/transactions"), ("query", ""), ("body", ""),
      ("body-file", ""), ("seal", "")], []⟩
    let c : Client := ⟨"test-client", "test-api-key-123", "test-secret-key-123", some ["USER"]⟩
    let reg : Registry := ⟨[c]⟩
    let now : Instant := ⟨1740052800000000000, 0⟩
    Signs host args f [] ∧ reg.lookup (f.get "api-key") = some c ∧
      c.secretKey = f.get "secret" ∧ String.trimBlank (f.get "api-key") ≠ "" ∧
      (0 < host.clockMillis ∧ host.clockMillis < 9223372036854775808) ∧
      (host.clockMillis ≤ now.toMillis ∧
        now.toMillis - host.clockMillis ≤ (effectiveSkew 0).tdiv 1000000) ∧
      ∃ stamp signature,
        (runSigner host args).stdout = ["X-API-KEY: " ++ f.get "api-key",
          "X-TIMESTAMP: " ++ stamp, "X-HMAC-SIGNATURE: " ++ signature] ∧
        ∀ req : Http.Request, Carries f stamp signature req →
          (canonical req.method req.url.path req.url.rawQuery stamp [] =
              canonical (f.get "method") (Bytes.ofString (f.get "path")) (f.get "query") stamp [] ↔
            req.url.path = Bytes.ofString (f.get "path")) ∧
          (req.url.path = Bytes.ofString (f.get "path") →
            authenticate reg 0 now (req.toAuth []) = .ok ⟨c.apiKey, c.name, c.roles.getD []⟩) := by
  intro host args f c reg now
  have hsigns : Signs host args f [] :=
    ⟨rfl, by decide, by decide, by decide, by decide +kernel⟩
  have hclient : reg.lookup (f.get "api-key") = some c := by decide +kernel
  have hkey : String.trimBlank (f.get "api-key") ≠ "" := by decide +kernel
  have hinstant : 0 < host.clockMillis ∧ host.clockMillis < 9223372036854775808 := by decide
  have hclock : host.clockMillis ≤ now.toMillis ∧
      now.toMillis - host.clockMillis ≤ (effectiveSkew 0).tdiv 1000000 := by decide +kernel
  exact ⟨hsigns, hclient, rfl, hkey, hinstant, hclock,
    signer_headers_accepted_of_plain_path hsigns hclient rfl hkey hinstant hclock⟩

/-- A signature the command prints for `/api/transactions/%41` is refused by the front, which
reads the path as `/api/transactions/A`. -/
theorem escaped_path_signature_refused :
    let host : Host := { clockMillis := 1740052800000 }
    let signature := sign "test-secret-key-123" "GET"
      (Bytes.ofString "/api/transactions/%41") "" "1740052800000" []
    let registry : Registry :=
      ⟨[⟨"test-client", "test-api-key-123", "test-secret-key-123", some ["USER"]⟩]⟩
    (runSigner host ["-api-key", "test-api-key-123", "-secret", "test-secret-key-123",
        "-method", "GET", "-path", "/api/transactions/%41"]).stdout =
      ["X-API-KEY: test-api-key-123", "X-TIMESTAMP: 1740052800000",
        "X-HMAC-SIGNATURE: " ++ signature] ∧
    (Http.Request.make "GET" "/api/transactions/%41" none).map (fun req =>
      (req.url.path, match authenticate registry 0 ⟨1740052800000000000, 0⟩
        ({ req with headers := ((({} : Http.Headers).set "X-API-KEY" "test-api-key-123").set
            "X-TIMESTAMP" "1740052800000").set "X-HMAC-SIGNATURE" signature }.toAuth []) with
        | .ok _ => ErrorKind.unknown
        | .error f => f.kind)) =
      .ok (Bytes.ofString "/api/transactions/A", .authSignatureInvalid) := by
  decide +kernel

end Command

end Ledger
