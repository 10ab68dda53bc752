import Mathlib
import Ledger.Proofs.Base64Codec
import Ledger.Config.Clients
/-!
# Sealed secrets open to what was sealed

Opening undoes each layer of a sealed secret, the base64, the nonce cut and the secret box,
so a sealed secret opens to its own bytes and a client list with sealed secrets reads back as
the list before sealing (`sealing_round_trip`).
-/

namespace Ledger

/-! ## The secret box -/

namespace Crypto

theorem length_salsaBlock (key input : Bytes) : (salsaBlock key input).length = 64 := by
  simp [salsaBlock, bytesLE, List.length_flatten, Function.comp_def]

/-- The key stream has at least the bytes asked for: whole blocks of 64 bytes. -/
theorem le_length_keyStream (key nonce : Bytes) (n : Nat) : n ≤ (keyStream key nonce n).length := by
  simp [keyStream, List.length_flatten, Function.comp_def, length_salsaBlock]
  omega

theorem length_poly1305 (key msg : Bytes) : (poly1305 key msg).length = 16 := by
  simp [poly1305]

/-- XORing twice with the same stream gives the message back, if the stream is long enough. -/
theorem zipWith_xor_cancel : ∀ (m s : Bytes), m.length ≤ s.length →
    List.zipWith (· ^^^ ·) (List.zipWith (· ^^^ ·) m s) s = m
  | [], _, _ => rfl
  | _ :: _, [], h => absurd h (by simp)
  | a :: m, b :: s, h => by
    rw [List.zipWith_cons_cons, List.zipWith_cons_cons, xor_cancel_right,
      zipWith_xor_cancel m s (by simpa using h)]

theorem length_sealBox (key nonce msg : Bytes) :
    (sealBox key nonce msg).length = boxOverhead + msg.length := by
  have hstream := le_length_keyStream key nonce (32 + msg.length)
  simp [sealBox, length_poly1305, boxOverhead]
  omega

/-- A box opens, under the key and nonce it was sealed with, to the sealed message. -/
theorem openBox_sealBox (key nonce msg : Bytes) :
    openBox key nonce (sealBox key nonce msg) = some msg := by
  have hstream := le_length_keyStream key nonce (32 + msg.length)
  -- the ciphertext is as long as the message, so opening draws the same key stream
  have hcipher : (List.zipWith (· ^^^ ·) msg
      ((keyStream key nonce (32 + msg.length)).drop 32)).length = msg.length := by
    simp only [List.length_zipWith, List.length_drop]
    omega
  have hlen := length_sealBox key nonce msg
  unfold sealBox at hlen ⊢
  rw [openBox, if_neg (by omega)]
  simp only [List.take_left' (length_poly1305 _ _), List.drop_left' (length_poly1305 _ _),
    hcipher, beq_self_eq_true, if_true]
  rw [zipWith_xor_cancel _ _ (by simp only [List.length_drop]; omega)]

theorem HexText.ne_nil {k : Bytes} {t : List Char} (ht : HexText k t) (hk : k ≠ []) : t ≠ [] := by
  intro h
  have := ht.length_eq
  simp [h, hk] at this

end Crypto

/-! ## Keys -/

/-- Hex text of 32 bytes, in either case and between blank margins, is read as that key. -/
theorem SealKey.parse_hexText {k : Bytes} (hk : k.length = 32) {pre t post : List Char}
    (hpre : ∀ c ∈ pre, Text.isBlank c = true) (hpost : ∀ c ∈ post, Text.isBlank c = true)
    (ht : Crypto.HexText k t) :
    SealKey.parse (String.ofList (pre ++ t ++ post)) = .ok ⟨k⟩ := by
  have hne : t ≠ [] := ht.ne_nil (by rintro rfl; simp at hk)
  rw [SealKey.parse, Bytes.trimBlank_ofString, Bytes.trimBlank_margins hpre hpost ht.not_blank hne,
    Bytes.ofString_eq_flatMap, String.toList_ofList, Crypto.hexDecode_hexText k ht]
  simp [hk]

/-! ## Sealing and opening -/

theorem sealSecret_eq_ok (key : SealKey) (nonce : Bytes) {plain : String} (hplain : plain ≠ "") :
    sealSecret key nonce plain =
      .ok (sealedPrefix ++ Crypto.base64Encode (nonce ++ Crypto.sealBox key.bytes nonce
        (Bytes.ofString plain))) := by
  rw [sealSecret, if_neg (by simpa [String.isEmpty_iff] using hplain)]

/-- Sealing succeeds exactly on a secret that is not empty. -/
theorem sealSecret_ok_iff (key : SealKey) (nonce : Bytes) (plain s : String) :
    sealSecret key nonce plain = .ok s ↔
      plain ≠ "" ∧ s = sealedPrefix ++ Crypto.base64Encode (nonce ++ Crypto.sealBox key.bytes nonce
        (Bytes.ofString plain)) := by
  by_cases hplain : plain = ""
  · subst hplain
    simp [sealSecret]
  · rw [sealSecret_eq_ok key nonce hplain]
    simp [hplain, eq_comm]

theorem isSealed_prefix (e : String) : isSealed (sealedPrefix ++ e) = true := by
  rw [isSealed, String.startsWith_string_iff, String.toList_append]
  exact List.prefix_append _ _

theorem drop_sealedPrefix (e : String) :
    ((sealedPrefix ++ e).drop sealedPrefix.length).toString = e := by
  rw [String.Slice.toString_eq]
  apply String.toList_inj.mp
  rw [String.toList_copy_drop, String.toList_append, ← String.length_toList, List.drop_left]

/-- A sealed secret opens, under the key it was sealed with, to the bytes of the secret. -/
theorem openSecret_sealSecret (key : SealKey) {nonce : Bytes} (hnonce : nonce.length = nonceLength)
    {plain s : String} (h : sealSecret key nonce plain = .ok s) :
    openSecret key s = .ok (Bytes.ofString plain) := by
  obtain ⟨-, rfl⟩ := (sealSecret_ok_iff key nonce plain s).mp h
  have hbox := Crypto.length_sealBox key.bytes nonce (Bytes.ofString plain)
  rw [openSecret, isSealed_prefix, Bool.not_true, if_neg Bool.false_ne_true, drop_sealedPrefix,
    Crypto.base64Decode_base64Encode]
  simp only [List.length_append, hbox, hnonce]
  -- the payload is the nonce and the box: long enough, and cut where the nonce ends
  rw [if_neg (by omega), List.take_left' hnonce, List.drop_left' hnonce, Crypto.openBox_sealBox]

/-- A payload shorter than a nonce and a tag is refused with its length, before it is cut. -/
theorem openSecret_short (key : SealKey) {s : String} {raw : Bytes} (hs : isSealed s = true)
    (hraw : Crypto.base64Decode (Bytes.ofString (s.drop sealedPrefix.length).toString) = .ok raw)
    (hshort : raw.length < nonceLength + Crypto.boxOverhead) :
    openSecret key s = .error ("sealed value too short: " ++ toString raw.length ++ " bytes") := by
  rw [openSecret, hs, Bool.not_true, if_neg Bool.false_ne_true, hraw]
  simp only [if_pos hshort]

/-! ## Client lists -/

/-- How a client may be stored: as it is, or with its secret sealed under the key with a nonce
of the right length. -/
def SealedAs (key : SealKey) (stored c : Auth.Client) : Prop :=
  stored = c ∨ ∃ nonce s, nonce.length = nonceLength ∧ sealSecret key nonce c.secretKey = .ok s ∧
    stored = { c with secretKey := s }

namespace ClientList

/-- Opening a stored client gives the client it was stored for. -/
theorem openClient_of_sealedAs {k : Bytes} (hk : k.length = 32) {pre t post : List Char}
    (hpre : ∀ c ∈ pre, Text.isBlank c = true) (hpost : ∀ c ∈ post, Text.isBlank c = true)
    (ht : Crypto.HexText k t) {stored c : Auth.Client} (hc : isSealed c.secretKey = false)
    (h : SealedAs ⟨k⟩ stored c) :
    openClient (String.ofList (pre ++ t ++ post)) stored = .ok c := by
  rcases h with rfl | ⟨nonce, s, hnonce, hseal, rfl⟩
  · simp [openClient, hc]
  · obtain ⟨-, hs⟩ := (sealSecret_ok_iff ⟨k⟩ nonce c.secretKey s).mp hseal
    have hsealed : isSealed s = true := hs ▸ isSealed_prefix _
    have hkey : (String.ofList (pre ++ t ++ post)).isEmpty = false := by
      have hne : t ≠ [] := ht.ne_nil (by rintro rfl; simp at hk)
      rw [Bool.eq_false_iff, ne_eq, String.isEmpty_iff, ← String.toList_inj, String.toList_ofList]
      simp [hne]
    simp only [openClient, hsealed, Bool.not_true, Bool.false_eq_true, if_false, hkey,
      SealKey.parse_hexText hk hpre hpost ht, openSecret_sealSecret ⟨k⟩ hnonce hseal,
      Bytes.toText_ofString]

/-- Opening every stored client of a list gives the clients the list was stored for, in order. -/
theorem mapM_openClient {k : Bytes} (hk : k.length = 32) {pre t post : List Char}
    (hpre : ∀ c ∈ pre, Text.isBlank c = true) (hpost : ∀ c ∈ post, Text.isBlank c = true)
    (ht : Crypto.HexText k t) {stored cs : List Auth.Client}
    (hsealed : List.Forall₂ (SealedAs ⟨k⟩) stored cs) (hplain : ∀ c ∈ cs, isSealed c.secretKey = false) :
    stored.mapM (openClient (String.ofList (pre ++ t ++ post))) = .ok cs := by
  induction hsealed with
  | nil => rfl
  | @cons s c stored cs hs _ ih =>
    rw [List.mapM_cons, openClient_of_sealedAs hk hpre hpost ht (hplain c (by simp)) hs,
      ih (fun c' hc' => hplain c' (by simp [hc']))]
    rfl

/-- A client list read with its sealed secrets opened is the list before sealing. -/
theorem read_of_sealedAs {raw : Bytes} {stored cs : List Auth.Client}
    (hdecode : decode raw = .ok (some stored)) {k : Bytes} (hk : k.length = 32)
    {pre t post : List Char} (hpre : ∀ c ∈ pre, Text.isBlank c = true)
    (hpost : ∀ c ∈ post, Text.isBlank c = true) (ht : Crypto.HexText k t)
    (hsealed : List.Forall₂ (SealedAs ⟨k⟩) stored cs) (hplain : ∀ c ∈ cs, isSealed c.secretKey = false) :
    read raw (String.ofList (pre ++ t ++ post)) = .ok (some cs) := by
  rw [read, hdecode]
  simp only [mapM_openClient hk hpre hpost ht hsealed hplain]
  rfl

end ClientList

/-! ## The round trip -/

/-- What sealing under a key `k` guarantees, from the key's text to the clients read. -/
structure SealingRoundTrip (k : Bytes) : Prop where
  /-- The key's hex, in either case and between blank margins, reads as the key. -/
  parseKey : ∀ pre t post : List Char, (∀ c ∈ pre, Text.isBlank c = true) →
    (∀ c ∈ post, Text.isBlank c = true) → Crypto.HexText k t →
    SealKey.parse (String.ofList (pre ++ t ++ post)) = .ok ⟨k⟩
  /-- A secret that is not empty seals to a sealed value. -/
  seals : ∀ (nonce : Bytes) (plain : String), plain ≠ "" →
    ∃ s, sealSecret ⟨k⟩ nonce plain = .ok s ∧ isSealed s = true
  /-- A sealed value opens to the bytes of the secret, whose text is the secret. -/
  opens : ∀ (nonce : Bytes) (plain s : String), nonce.length = nonceLength →
    sealSecret ⟨k⟩ nonce plain = .ok s →
    openSecret ⟨k⟩ s = .ok (Bytes.ofString plain) ∧ Bytes.toText (Bytes.ofString plain) = plain
  /-- A payload too short for a nonce and a tag is refused before it is cut. -/
  rejectsShort : ∀ (s : String) (raw : Bytes), isSealed s = true →
    Crypto.base64Decode (Bytes.ofString (s.drop sealedPrefix.length).toString) = .ok raw →
    raw.length < nonceLength + Crypto.boxOverhead →
    openSecret ⟨k⟩ s = .error ("sealed value too short: " ++ toString raw.length ++ " bytes")
  /-- A client list with any of its secrets sealed reads back as the list before sealing. -/
  readsClients : ∀ (raw : Bytes) (stored cs : List Auth.Client) (pre t post : List Char),
    ClientList.decode raw = .ok (some stored) → (∀ c ∈ pre, Text.isBlank c = true) →
    (∀ c ∈ post, Text.isBlank c = true) → Crypto.HexText k t →
    List.Forall₂ (SealedAs ⟨k⟩) stored cs → (∀ c ∈ cs, isSealed c.secretKey = false) →
    ClientList.read raw (String.ofList (pre ++ t ++ post)) = .ok (some cs)

/-- Sealed secrets round-trip through configuration under every 32-byte key. -/
theorem sealing_round_trip {k : Bytes} (hk : k.length = 32) : SealingRoundTrip k where
  parseKey _ _ _ hpre hpost ht := SealKey.parse_hexText hk hpre hpost ht
  seals nonce _ hplain := ⟨_, sealSecret_eq_ok ⟨k⟩ nonce hplain, isSealed_prefix _⟩
  opens _ plain _ hnonce h := ⟨openSecret_sealSecret ⟨k⟩ hnonce h, Bytes.toText_ofString plain⟩
  rejectsShort _ _ hs hraw hshort := openSecret_short ⟨k⟩ hs hraw hshort
  readsClients _ _ _ _ _ _ hdecode hpre hpost ht hsealed hplain :=
    ClientList.read_of_sealedAs hdecode hk hpre hpost ht hsealed hplain

/-- The key of the bytes 0 to 31 has all the guarantees. -/
theorem sealing_round_trip_of_counting_key :
    ((List.range 32).map Nat.toUInt8).length = 32 ∧
      SealingRoundTrip ((List.range 32).map Nat.toUInt8) :=
  ⟨by simp, sealing_round_trip (by simp)⟩

end Ledger
