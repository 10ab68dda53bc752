import Mathlib
import Ledger.Http.Api
/-!
# Error answers read the first classified failure

A failure is a chain of classified links and context. Its kind, its public message, matching
against a kind and the error answer all read the label of the first classified link
(`Failure.firstLabel`), so two failures whose first labels agree get the same answer.
-/

namespace Ledger

namespace Failure

/-- The failures a failure is made of, outermost first: the failure itself, then what it
wraps (the cause of a classified failure, the failure behind context), and so on. -/
def chain : Failure → List Failure
  | classified k m none => [classified k m none]
  | classified k m (some c) => classified k m (some c) :: chain c
  | context n inner => context n inner :: chain inner
  | plain t => [plain t]
  | refused r => [refused r]

/-- The kind and message of a classified failure. -/
def label? : Failure → Option (ErrorKind × Bytes)
  | classified k m _ => some (k, m)
  | _ => none

/-- The label of the first classified failure of the chain, if there is one. -/
def firstLabel (f : Failure) : Option (ErrorKind × Bytes) := f.chain.findSome? label?

/-- The kind reported for a label: its kind, and `unknown` without one. -/
def labelKind (l : Option (ErrorKind × Bytes)) : ErrorKind := (l.map Prod.fst).getD .unknown

/-- The message shown for a label: its message, unless its kind is internal; the generic
message without one. -/
def labelMessage : Option (ErrorKind × Bytes) → Bytes
  | some (k, m) => if k.isInternal then Bytes.ofString genericMessage else m
  | none => Bytes.ofString genericMessage

theorem firstLabel_classified (k : ErrorKind) (m : Bytes) (c : Option Failure) :
    (classified k m c).firstLabel = some (k, m) := by
  cases c <;> simp [firstLabel, chain, label?, List.findSome?_cons]

@[simp]
theorem firstLabel_context (n : Bytes) (inner : Failure) :
    (context n inner).firstLabel = inner.firstLabel := by
  simp [firstLabel, chain, label?, List.findSome?_cons]

/-- The outermost classified failure, found by looking through context, is the first
classified link of the chain. -/
theorem classification?_label (f : Failure) :
    f.classification?.map (fun c => (c.1, c.2.1)) = f.firstLabel := by
  match f with
  | classified k m c => simp [classification?, firstLabel_classified]
  | context n inner =>
    rw [firstLabel_context, ← classification?_label inner]
    rfl
  | plain t => rfl
  | refused r => rfl

theorem kind_eq_firstLabel (f : Failure) : f.kind = labelKind f.firstLabel := by
  rw [← classification?_label, kind, labelKind]
  cases f.classification? <;> rfl

theorem publicMessage_eq_firstLabel (f : Failure) :
    f.publicMessage = labelMessage f.firstLabel := by
  rw [← classification?_label, publicMessage]
  cases f.classification? <;> rfl

/-- Matching a kind and a message (empty for any) finds a classified link of the chain with
that kind and, unless the message is empty, that message. -/
theorem hasKind_iff_chain (kind : ErrorKind) (message : Bytes) (f : Failure) :
    f.hasKind kind message = true ↔
      ∃ g ∈ f.chain, ∃ m, g.label? = some (kind, m) ∧ (message.isEmpty ∨ message = m) := by
  match f with
  | classified k m none =>
    simp only [hasKind, chain, label?, Bool.or_false, List.mem_singleton]
    constructor
    · intro h
      simp only [Bool.and_eq_true, beq_iff_eq, Bool.or_eq_true] at h
      exact ⟨_, rfl, m, by rw [h.1], h.2⟩
    · rintro ⟨g, rfl, m', hlabel, hm⟩
      simp only [Option.some.injEq, Prod.mk.injEq] at hlabel
      obtain ⟨rfl, rfl⟩ := hlabel
      simpa using hm
  | classified k m (some c) =>
    simp only [hasKind, chain, Bool.or_eq_true, Bool.and_eq_true, beq_iff_eq,
      hasKind_iff_chain kind message c, List.mem_cons, exists_eq_or_imp, label?,
      Option.some.injEq, Prod.mk.injEq]
    constructor
    · rintro (⟨rfl, hm⟩ | h)
      · exact .inl ⟨m, ⟨rfl, rfl⟩, hm⟩
      · exact .inr h
    · rintro (⟨m', ⟨rfl, rfl⟩, hm⟩ | h)
      · exact .inl ⟨rfl, hm⟩
      · exact .inr h
  | context n inner =>
    simp [hasKind, chain, hasKind_iff_chain kind message inner, label?]
  | plain t => simp [hasKind, chain, label?]
  | refused r => simp [hasKind, chain, label?]

end Failure

namespace ErrorKind

/-- Of the kinds of the taxonomy, exactly the two internal ones have the code `XXX_999`. -/
theorem isInternal_of_code {k : ErrorKind} (hk : k ∈ listed) (hcode : k.code = "XXX_999") :
    k.isInternal = true := by
  simp only [listed, List.mem_cons, List.not_mem_nil, or_false] at hk
  rcases hk with rfl | rfl | rfl | rfl | rfl | rfl | rfl | rfl | rfl | rfl | rfl | rfl | rfl |
    rfl | rfl | rfl | rfl <;> revert hcode <;> decide

/-- A number outside the taxonomy is reported as `unknown` is, but it is not internal. -/
theorem unlisted_code_not_internal (n : Int) :
    (unlisted n).code = "XXX_999" ∧ (unlisted n).status = 500 ∧ (unlisted n).isInternal = false :=
  ⟨rfl, rfl, rfl⟩

end ErrorKind

namespace Http

open Failure

/-- The error answer to a failure is written from the kind and the public message of the first
classified failure of its chain. -/
theorem failureResponse_answer (headers : Headers) (extra : List (String × Log.Value))
    (f : Failure) (w : World) :
    ((failureResponse headers extra f).run w).1 =
      Response.json (labelKind f.firstLabel).status headers
        (.obj [("httpErrorCode", .text (errorCodeLabel (labelKind f.firstLabel).status)),
          ("errorCode", .text (labelKind f.firstLabel).code),
          ("errorMessage", .str (labelMessage f.firstLabel))]) := by
  have hbody : f.body = .obj [("httpErrorCode", .text (errorCodeLabel (labelKind f.firstLabel).status)),
      ("errorCode", .text (labelKind f.firstLabel).code),
      ("errorMessage", .str (labelMessage f.firstLabel))] := by
    rw [body, kind_eq_firstLabel, publicMessage_eq_firstLabel]
  unfold failureResponse
  dsimp only
  rw [← hbody, ← kind_eq_firstLabel]
  split <;> rfl

/-- The generic message stands in for every kind of the taxonomy whose code is `XXX_999`. -/
theorem labelMessage_of_code {l : Option (ErrorKind × Bytes)}
    (hcode : (labelKind l).code = "XXX_999") (hlisted : labelKind l ∈ ErrorKind.listed) :
    labelMessage l = Bytes.ofString genericMessage := by
  match l with
  | none => rfl
  | some (k, m) =>
    have hinternal := ErrorKind.isInternal_of_code hlisted hcode
    simp [labelMessage, labelKind] at hinternal ⊢
    simp [hinternal]

/-- Error answers depend only on the first classified failure of a failure's chain: its kind,
the kinds matched, the answer written, and the generic message of an internal code. -/
theorem error_answer_reads_first_label (f : Failure) :
    f.kind = labelKind f.firstLabel ∧
    (∀ kind message, f.hasKind kind message = true ↔
      ∃ g ∈ f.chain, ∃ m, g.label? = some (kind, m) ∧ (message.isEmpty ∨ message = m)) ∧
    (∀ headers extra w, ((failureResponse headers extra f).run w).1 =
      Response.json f.kind.status headers
        (.obj [("httpErrorCode", .text (errorCodeLabel f.kind.status)),
          ("errorCode", .text f.kind.code), ("errorMessage", .str f.publicMessage)])) ∧
    (∀ g : Failure, g.firstLabel = f.firstLabel → ∀ headers extra w w',
      ((failureResponse headers extra g).run w').1 = ((failureResponse headers extra f).run w).1) ∧
    (f.kind.code = "XXX_999" → f.kind ∈ ErrorKind.listed →
      f.publicMessage = Bytes.ofString genericMessage) := by
  refine ⟨kind_eq_firstLabel f, fun kind message => hasKind_iff_chain kind message f,
    fun headers extra w => ?_, fun g hg headers extra w w' => ?_, fun hcode hlisted => ?_⟩
  · rw [failureResponse_answer, kind_eq_firstLabel, publicMessage_eq_firstLabel]
  · rw [failureResponse_answer, failureResponse_answer, hg]
  · rw [kind_eq_firstLabel] at hcode hlisted
    rw [publicMessage_eq_firstLabel]
    exact labelMessage_of_code hcode hlisted

/-- An internal authentication failure behind context is answered with the generic message. -/
theorem error_answer_reads_first_label_of_internal_auth :
    (Failure.note "create transaction"
        (Failure.wrap .authInternal (.ofString "pq: relation missing") "hmac failed")).kind.code =
      "XXX_999" ∧
    (Failure.note "create transaction"
        (Failure.wrap .authInternal (.ofString "pq: relation missing") "hmac failed")).kind ∈
      ErrorKind.listed ∧
    (Failure.note "create transaction"
        (Failure.wrap .authInternal (.ofString "pq: relation missing") "hmac failed")).publicMessage =
      Bytes.ofString genericMessage :=
  ⟨rfl, by decide, (error_answer_reads_first_label _).2.2.2.2 rfl (by decide)⟩

/-- The kind numbered 99 is outside the taxonomy: its answer has the code `XXX_999` of
`unknown`, and still shows the failure's own message instead of the generic one. -/
theorem unlisted_kind_shows_message :
    (Failure.make (ErrorKind.ofInt 99) "ledger row 42 locked by batch job").kind.code =
      "XXX_999" ∧
    (Failure.make (ErrorKind.ofInt 99) "ledger row 42 locked by batch job").publicMessage =
      Bytes.ofString "ledger row 42 locked by batch job" ∧
    Bytes.ofString "ledger row 42 locked by batch job" ≠ Bytes.ofString genericMessage :=
  ⟨rfl, rfl, by decide +kernel⟩

end Http
end Ledger
