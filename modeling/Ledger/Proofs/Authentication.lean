import Ledger.Auth.Check
/-!
# Which requests the authenticator accepts

`authenticate` accepts a request exactly when it is `Signed`: both headers present, a fresh
timestamp, a registered key and the client's signature. A refusal carries the kind of the
first check failed (`Refused`).
-/

namespace Ledger.Auth

@[simp]
theorem except_throw {ε α : Type} (e : ε) : (throw e : Except ε α) = .error e := rfl

@[simp]
theorem except_error_bind {ε α β : Type} (e : ε) (f : α → Except ε β) :
    (.error e >>= f : Except ε β) = .error e := rfl

@[simp]
theorem except_ok_bind {ε α β : Type} (a : α) (f : α → Except ε β) :
    (.ok a >>= f : Except ε β) = f a := rfl

@[simp]
theorem except_map_ok {ε α β : Type} (a : α) (f : α → β) :
    (f <$> .ok a : Except ε β) = .ok (f a) := rfl

/-! ## The timestamp check -/

/-- A timestamp header that reads, once trimmed, as `ts` milliseconds since the epoch:
above zero, not after `now`, and at most `maxAge` milliseconds before it. -/
structure FreshStamp (maxAge : Int) (now : Instant) (raw : String) (ts : Int) : Prop where
  parsed : Number.parseInt64 (String.trimBlank raw) = .ok ts
  positive : 0 < ts
  notFuture : ts ≤ now.toMillis
  recent : now.toMillis - ts ≤ maxAge

/-- Why a timestamp header is refused, with the kind of the refusal: it does not read as a
number, the number is not above zero, it is after `now`, or it is more than `maxAge`
milliseconds before `now`. -/
inductive StaleStamp (maxAge : Int) (now : Instant) (raw : String) : ErrorKind → Prop
  | unreadable (h : ∀ ts, Number.parseInt64 (String.trimBlank raw) ≠ .ok ts) :
      StaleStamp maxAge now raw .authInvalidTimestamp
  | notPositive {ts : Int} (hparsed : Number.parseInt64 (String.trimBlank raw) = .ok ts)
      (h : ts ≤ 0) : StaleStamp maxAge now raw .authInvalidTimestamp
  | future {ts : Int} (hparsed : Number.parseInt64 (String.trimBlank raw) = .ok ts)
      (hpos : 0 < ts) (h : now.toMillis < ts) : StaleStamp maxAge now raw .authTimestampExpired
  | expired {ts : Int} (hparsed : Number.parseInt64 (String.trimBlank raw) = .ok ts)
      (hpos : 0 < ts) (hnow : ts ≤ now.toMillis) (h : maxAge < now.toMillis - ts) :
      StaleStamp maxAge now raw .authTimestampExpired

/-- What a result of `checkTimestamp` says of the header: a fresh timestamp, or the kind of
the first check it fails. -/
def StampAnswers (maxAge : Int) (now : Instant) (raw : String) : Except Failure Unit → Prop
  | .ok () => ∃ ts, FreshStamp maxAge now raw ts
  | .error e => StaleStamp maxAge now raw e.kind

/-- The timestamp check passes on a fresh timestamp and refuses a stale one with its
kind. -/
theorem checkTimestamp_answers {skew : Int} {now : Instant} {raw : String}
    {r : Except Failure Unit} (h : checkTimestamp skew now raw = r) :
    StampAnswers ((effectiveSkew skew).tdiv 1000000) now raw r := by
  subst h
  unfold checkTimestamp
  cases hparsed : Number.parseInt64 (String.trimBlank raw) with
  | error err => exact .unreadable fun ts h => by rw [hparsed] at h; cases h
  | ok ts =>
    dsimp only
    by_cases hpos : ts ≤ 0
    · rw [if_pos hpos]
      exact .notPositive hparsed hpos
    rw [if_neg hpos]
    by_cases hfuture : ts > now.toMillis
    · rw [if_pos hfuture]
      exact .future hparsed (by omega) hfuture
    rw [if_neg hfuture]
    by_cases hold : now.toMillis - ts > (effectiveSkew skew).tdiv 1000000
    · rw [if_pos hold]
      exact .expired hparsed (by omega) (by omega) hold
    rw [if_neg hold]
    exact ⟨ts, hparsed, by omega, by omega, by omega⟩

theorem checkTimestamp_of_fresh {skew : Int} {now : Instant} {raw : String} {ts : Int}
    (h : FreshStamp ((effectiveSkew skew).tdiv 1000000) now raw ts) :
    checkTimestamp skew now raw = .ok () := by
  obtain ⟨hparsed, hpos, hnow, hage⟩ := h
  simp only [checkTimestamp, hparsed]
  rw [if_neg (by omega), if_neg (by omega), if_neg (by omega)]

/-! ## The whole check -/

/-- A request that client `c` signed: both headers present once trimmed, a fresh
timestamp, an API key registered to `c`, and the signature `c` makes of the request with
its timestamp as sent. -/
structure Signed (reg : Registry) (maxAge : Int) (now : Instant) (req : Request) (c : Client) :
    Prop where
  key : String.trimBlank req.apiKey ≠ ""
  signature : String.trimBlank req.signature ≠ ""
  fresh : ∃ ts, FreshStamp maxAge now req.timestamp ts
  client : reg.lookup req.apiKey = some c
  signed : req.signature = sign c.secretKey req.method req.path req.query req.timestamp req.body

/-- Why a request is refused: the first check it fails, with the checks before it passed,
and the kind of the refusal. -/
inductive Refused (reg : Registry) (maxAge : Int) (now : Instant) (req : Request) :
    ErrorKind → Prop
  | noKey (h : String.trimBlank req.apiKey = "") : Refused reg maxAge now req .authMissingHeader
  | noSignature (hkey : String.trimBlank req.apiKey ≠ "")
      (h : String.trimBlank req.signature = "") : Refused reg maxAge now req .authMissingHeader
  | stale {k : ErrorKind} (hkey : String.trimBlank req.apiKey ≠ "")
      (hsig : String.trimBlank req.signature ≠ "") (h : StaleStamp maxAge now req.timestamp k) :
      Refused reg maxAge now req k
  | unknownKey {ts : Int} (hkey : String.trimBlank req.apiKey ≠ "")
      (hsig : String.trimBlank req.signature ≠ "") (hfresh : FreshStamp maxAge now req.timestamp ts)
      (h : reg.lookup req.apiKey = none) : Refused reg maxAge now req .authGeneric
  | forged {ts : Int} {c : Client} (hkey : String.trimBlank req.apiKey ≠ "")
      (hsig : String.trimBlank req.signature ≠ "") (hfresh : FreshStamp maxAge now req.timestamp ts)
      (hclient : reg.lookup req.apiKey = some c)
      (h : req.signature ≠ sign c.secretKey req.method req.path req.query req.timestamp req.body) :
      Refused reg maxAge now req .authSignatureInvalid

/-- What a result of `authenticate` says of the request: acceptance as the client that
signed it, or refusal for the first check it fails. -/
def Answers (reg : Registry) (maxAge : Int) (now : Instant) (req : Request) :
    Except Failure Principal → Prop
  | .ok p => ∃ c, Signed reg maxAge now req c ∧ p = ⟨c.apiKey, c.name, c.roles.getD []⟩
  | .error e => Refused reg maxAge now req e.kind

section Outcome

variable (reg : Registry) (skew : Int) (now : Instant) (req : Request)

/-- Every request is accepted as the client that signed it, or refused for the first check
it fails. -/
theorem authenticate_answers {r : Except Failure Principal}
    (hr : authenticate reg skew now req = r) :
    Answers reg ((effectiveSkew skew).tdiv 1000000) now req r := by
  by_cases hkey : String.trimBlank req.apiKey = ""
  · simp only [authenticate, hkey, String.isEmpty_iff, if_true, except_throw,
      except_error_bind] at hr
    subst hr
    exact .noKey hkey
  by_cases hsig : String.trimBlank req.signature = ""
  · simp only [authenticate, hkey, hsig, String.isEmpty_iff, if_true, if_false, except_throw,
      except_error_bind] at hr
    subst hr
    exact .noSignature hkey hsig
  -- both headers are present: the timestamp decides next
  cases hts : checkTimestamp skew now req.timestamp with
  | error e =>
    have hstamp := checkTimestamp_answers hts
    simp only [authenticate, hkey, hsig, hts, String.isEmpty_iff, if_false,
      except_error_bind] at hr
    subst hr
    exact .stale hkey hsig hstamp
  | ok u =>
    obtain ⟨ts, hfresh⟩ := checkTimestamp_answers hts
    cases hclient : reg.lookup req.apiKey with
    | none =>
      simp only [authenticate, hkey, hsig, hts, hclient, String.isEmpty_iff, if_false,
        except_ok_bind, except_throw] at hr
      subst hr
      exact .unknownKey hkey hsig hfresh hclient
    | some c =>
      by_cases hsigned : req.signature = sign c.secretKey req.method req.path req.query
          req.timestamp req.body
      · have hsame : (req.signature != sign c.secretKey req.method req.path req.query
            req.timestamp req.body) = false := by simp [hsigned]
        simp only [authenticate, hkey, hsig, hts, hclient, hsame, String.isEmpty_iff, if_false,
          except_ok_bind] at hr
        subst hr
        exact ⟨c, ⟨hkey, hsig, ⟨ts, hfresh⟩, hclient, hsigned⟩, rfl⟩
      · have hdiffer : (req.signature != sign c.secretKey req.method req.path req.query
            req.timestamp req.body) = true := by simp [hsigned]
        simp only [authenticate, hkey, hsig, hts, hclient, hdiffer, String.isEmpty_iff, if_false,
          if_true, except_ok_bind, except_throw, except_error_bind] at hr
        subst hr
        exact .forged hkey hsig hfresh hclient hsigned

/-- A request that a client signed is accepted as that client. -/
theorem authenticate_of_signed {c : Client}
    (h : Signed reg ((effectiveSkew skew).tdiv 1000000) now req c) :
    authenticate reg skew now req = .ok ⟨c.apiKey, c.name, c.roles.getD []⟩ := by
  obtain ⟨hkey, hsig, ⟨ts, hfresh⟩, hclient, hsigned⟩ := h
  have hsame : (req.signature != sign c.secretKey req.method req.path req.query
      req.timestamp req.body) = false := by simp [hsigned]
  simp [authenticate, hkey, hsig, checkTimestamp_of_fresh hfresh, hclient, hsame]

end Outcome

/-- The authenticator accepts exactly the requests a registered client signed with a fresh
timestamp, under the skew in force, and refuses any other with the kind of the first check it
fails. -/
theorem authenticate_accepts_exactly_signed (reg : Registry) (skew : Int) (now : Instant)
    (req : Request) :
    (∀ p, authenticate reg skew now req = .ok p ↔
      ∃ c, Signed reg ((effectiveSkew skew).tdiv 1000000) now req c ∧
        p = ⟨c.apiKey, c.name, c.roles.getD []⟩) ∧
    ∀ e, authenticate reg skew now req = .error e →
      Refused reg ((effectiveSkew skew).tdiv 1000000) now req e.kind := by
  refine ⟨fun p => ⟨fun h => authenticate_answers reg skew now req h, ?_⟩,
    fun e h => authenticate_answers reg skew now req h⟩
  rintro ⟨c, hsigned, rfl⟩
  exact authenticate_of_signed reg skew now req hsigned

end Ledger.Auth
