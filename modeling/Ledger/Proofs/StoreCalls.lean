import Mathlib
import Ledger.Proofs.StoreLaws
/-!
# Calls of the in-memory store

`Call` names each call of the store's interface with the arguments it reads, and `Call.apply`
gives the store after it. A store is `Reachable` when some sequence of calls leads to it from
the empty store.
-/

namespace Ledger.Store

/-- A call of the store's interface, with the arguments it reads. -/
inductive Call where
  | findByNumber (number : Bytes)
  | createAccount (a : Account)
  | updateBalance (id version : Int) (balance : Decimal)
  | ping
  | createRecord (t : Transaction)
  | findRecord (id : Uuid)
  | updateStatus (id : Uuid) (status : TxnStatus) (version : Int)
  | countSince (accountId : Int) (since : Instant)
  | listByAccount (accountId limit : Int)
  | listByStatus (status : TxnStatus) (since : Instant)

/-- The store a changing call leaves: the new store when it succeeds, the old one when it is
refused. -/
def settle {α : Type} (s : Store) : Except Failure (Store × α) → Store
  | .ok (s', _) => s'
  | .error _ => s

/-- The store after a call made when the store's clock reads `now`. -/
def Call.apply (s : Store) (now : Instant) : Call → Store
  | .createAccount a => settle s (s.createAccount a now)
  | .updateBalance id version balance => settle s (s.updateBalance id version balance now)
  | .createRecord t => settle s (s.createRecord t now)
  | .updateStatus id status version => settle s (s.updateStatus id status version now)
  | _ => s

@[simp]
theorem settle_ok {α : Type} (s s' : Store) (a : α) : settle s (.ok (s', a)) = s' := rfl

@[simp]
theorem settle_error {α : Type} (s : Store) (f : Failure) :
    settle s (.error f : Except Failure (Store × α)) = s := rfl

/-- Stores that some sequence of calls leads to from the empty store. -/
inductive Reachable : Store → Prop
  | empty : Reachable {}
  | call {s : Store} (now : Instant) (c : Call) : Reachable s → Reachable (c.apply s now)

/-- The account with a given id, if any. -/
def accountOf (s : Store) (id : Int) : Option Account := s.accounts.find? (·.id == id)

/-- The record stored under a given id, if any. -/
def recordOf (s : Store) (id : Uuid) : Option Transaction := s.records.find? (·.id == id)

/-- What a call can do to the store: leave it, or succeed at one of the four changing calls. -/
theorem Call.apply_cases (s : Store) (now : Instant) (c : Call) :
    c.apply s now = s ∨
      (∃ a b, s.createAccount a now = .ok (c.apply s now, b)) ∨
      (∃ id version balance r, s.updateBalance id version balance now = .ok (c.apply s now, r)) ∨
      (∃ t t', s.createRecord t now = .ok (c.apply s now, t')) ∨
      (∃ id status version r, s.updateStatus id status version now = .ok (c.apply s now, r)) := by
  cases c with
  | createAccount a =>
    rcases h : s.createAccount a now with f | ⟨s', b⟩
    · simp [Call.apply, h]
    · exact .inr (.inl ⟨a, b, by simp [Call.apply, h]⟩)
  | updateBalance id version balance =>
    rcases h : s.updateBalance id version balance now with f | ⟨s', r⟩
    · simp [Call.apply, h]
    · exact .inr (.inr (.inl ⟨id, version, balance, r, by simp [Call.apply, h]⟩))
  | createRecord t =>
    rcases h : s.createRecord t now with f | ⟨s', t'⟩
    · simp [Call.apply, h]
    · exact .inr (.inr (.inr (.inl ⟨t, t', by simp [Call.apply, h]⟩)))
  | updateStatus id status version =>
    rcases h : s.updateStatus id status version now with f | ⟨s', r⟩
    · simp [Call.apply, h]
    · exact .inr (.inr (.inr (.inr ⟨id, status, version, r, by simp [Call.apply, h]⟩)))
  | findByNumber | ping | findRecord | countSince | listByAccount | listByStatus =>
    exact .inl rfl

end Ledger.Store
