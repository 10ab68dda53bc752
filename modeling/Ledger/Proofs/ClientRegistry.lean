import Mathlib
import Ledger.Config.Load
import Ledger.Proofs.Authentication
/-!
# The client registry

A client list builds a registry exactly when every client has a key and no two share one,
and the registry then finds for each key the one client holding it. Validated settings
always build (`registry_indexes_clients`).
-/

namespace Ledger.Auth.Registry

/-! ## Lists a registry can index -/

/-- Every client has an API key and no two clients share one. -/
def KeysDistinct (cs : List Client) : Prop :=
  (∀ c ∈ cs, c.apiKey ≠ "") ∧ (cs.map (·.apiKey)).Nodup

/-- Client `c` cannot join the clients `seen`: it has no key, or one of them has its key. -/
def Clashes (seen : List Client) (c : Client) : Prop :=
  c.apiKey = "" ∨ c.apiKey ∈ seen.map (·.apiKey)

instance (seen : List Client) (c : Client) : Decidable (Clashes seen c) :=
  inferInstanceAs (Decidable (_ ∨ _))

/-- The refusal of a client that clashes: the missing key, else the duplicate key. -/
def refusal (c : Client) : String :=
  if c.apiKey = "" then "client " ++ Text.quoteString c.name ++ " has no API key"
  else "duplicate API key for client " ++ Text.quoteString c.name

@[simp]
theorem keysDistinct_nil : KeysDistinct [] := by
  simp [KeysDistinct]

theorem KeysDistinct.of_append_left {xs ys : List Client} (h : KeysDistinct (xs ++ ys)) :
    KeysDistinct xs := by
  simp only [KeysDistinct, List.mem_append, List.map_append, List.nodup_append] at h
  exact ⟨fun c hc => h.1 c (.inl hc), h.2.1⟩

theorem keysDistinct_append_singleton {seen : List Client} {c : Client} :
    KeysDistinct (seen ++ [c]) ↔ KeysDistinct seen ∧ ¬Clashes seen c := by
  simp only [KeysDistinct, Clashes, List.map_append, List.map_cons, List.map_nil, List.nodup_append,
    List.nodup_singleton, List.mem_singleton, List.mem_append, not_or]
  aesop

/-- A list whose keys are not all present and distinct has a first client that clashes with
those before it. -/
theorem exists_first_clash {seen : List Client} (hseen : KeysDistinct seen) :
    ∀ {cs : List Client}, ¬KeysDistinct (seen ++ cs) →
      ∃ pre c post, cs = pre ++ c :: post ∧ KeysDistinct (seen ++ pre) ∧ Clashes (seen ++ pre) c := by
  intro cs
  induction cs generalizing seen with
  | nil => simp [hseen]
  | cons c cs ih =>
    intro h
    by_cases hc : Clashes seen c
    · exact ⟨[], c, cs, rfl, by simpa using hseen, by simpa using hc⟩
    -- `c` joins; the first clash lies further on
    have hjoin : KeysDistinct (seen ++ [c]) := keysDistinct_append_singleton.mpr ⟨hseen, hc⟩
    obtain ⟨pre, d, post, rfl, hpre, hd⟩ := ih hjoin (by simpa using h)
    exact ⟨c :: pre, d, post, rfl, by simpa using hpre, by simpa using hd⟩

/-! ## Building -/

/-- Enrolls one client after those enrolled so far, or refuses it. -/
def enroll (acc : Except String (List Client)) (c : Client) : Except String (List Client) :=
  match acc with
  | .error e => .error e
  | .ok seen =>
    if c.apiKey.isEmpty then .error ("client " ++ Text.quoteString c.name ++ " has no API key")
    else if seen.any (·.apiKey == c.apiKey) then
      .error ("duplicate API key for client " ++ Text.quoteString c.name)
    else .ok (seen ++ [c])

theorem build_eq_foldl (cs : List Client) : build cs = (cs.foldl enroll (.ok [])).map Registry.mk :=
  rfl

theorem enroll_ok_eq {seen : List Client} {c : Client} :
    enroll (.ok seen) c = if Clashes seen c then .error (refusal c) else .ok (seen ++ [c]) := by
  by_cases hkey : c.apiKey = ""
  · simp [enroll, Clashes, refusal, hkey]
  · by_cases hdup : c.apiKey ∈ seen.map (·.apiKey)
    · obtain ⟨d, hd, hdkey⟩ := List.mem_map.mp hdup
      have hany : seen.any (·.apiKey == c.apiKey) = true := List.any_eq_true.mpr ⟨d, hd, by simp [hdkey]⟩
      simpa [enroll, Clashes, refusal, hkey, hany] using ⟨d, hd, hdkey⟩
    · have hany : seen.any (·.apiKey == c.apiKey) = false := by
        simpa [List.any_eq_false] using fun d hd hdkey => hdup (List.mem_map.mpr ⟨d, hd, hdkey⟩)
      simp [enroll, Clashes, hkey, hdup, hany]

@[simp]
theorem foldl_enroll_error (e : String) (cs : List Client) : cs.foldl enroll (.error e) = .error e := by
  induction cs with
  | nil => rfl
  | cons c cs ih => exact ih

/-- Clients whose keys are present and distinct, together with those admitted before, are
all admitted. -/
theorem foldl_enroll_of_keysDistinct {seen cs : List Client} (h : KeysDistinct (seen ++ cs)) :
    cs.foldl enroll (.ok seen) = .ok (seen ++ cs) := by
  induction cs generalizing seen with
  | nil => simp
  | cons c cs ih =>
    rw [← List.singleton_append, ← List.append_assoc] at h ⊢
    have hc := (keysDistinct_append_singleton.mp h.of_append_left).2
    rw [List.foldl_append, List.foldl_cons, List.foldl_nil, enroll_ok_eq, if_neg hc, ih h]

/-- The first client that clashes with those before it is refused, and the refusal stands. -/
theorem foldl_enroll_first_clash {seen pre post : List Client} {c : Client}
    (hpre : KeysDistinct (seen ++ pre)) (hc : Clashes (seen ++ pre) c) :
    (pre ++ c :: post).foldl enroll (.ok seen) = .error (refusal c) := by
  rw [List.foldl_append, foldl_enroll_of_keysDistinct hpre, List.foldl_cons, enroll_ok_eq, if_pos hc,
    foldl_enroll_error]

/-- Building fails exactly at a first client that clashes with those before it, and the
refusal names that client. -/
theorem build_eq_error_iff (cs : List Client) (e : String) :
    build cs = .error e ↔
      ∃ pre c post, cs = pre ++ c :: post ∧ KeysDistinct pre ∧ Clashes pre c ∧ e = refusal c := by
  constructor
  · intro h
    by_cases hcs : KeysDistinct cs
    · rw [build_eq_foldl, foldl_enroll_of_keysDistinct (by simpa using hcs)] at h
      cases h
    obtain ⟨pre, c, post, rfl, hpre, hc⟩ := exists_first_clash keysDistinct_nil (by simpa using hcs)
    rw [build_eq_foldl, foldl_enroll_first_clash hpre hc] at h
    exact ⟨pre, c, post, rfl, by simpa using hpre, by simpa using hc, (Except.error.inj h).symm⟩
  · rintro ⟨pre, c, post, rfl, hpre, hc, rfl⟩
    rw [build_eq_foldl, foldl_enroll_first_clash (by simpa using hpre) (by simpa using hc)]
    rfl

/-- A list whose keys are present and distinct builds the registry of that list. -/
theorem build_of_keysDistinct {cs : List Client} (h : KeysDistinct cs) : build cs = .ok ⟨cs⟩ := by
  rw [build_eq_foldl, foldl_enroll_of_keysDistinct (by simpa using h)]
  rfl

/-- Building fails exactly when some client has no key or two clients share one. -/
theorem build_fails_iff (cs : List Client) : (∃ e, build cs = .error e) ↔ ¬KeysDistinct cs := by
  constructor
  · rintro ⟨e, he⟩ hcs
    rw [build_of_keysDistinct hcs] at he
    cases he
  · intro hcs
    obtain ⟨pre, c, post, rfl, hpre, hc⟩ := exists_first_clash keysDistinct_nil (by simpa using hcs)
    exact ⟨refusal c, (build_eq_error_iff _ _).mpr
      ⟨pre, c, post, rfl, by simpa using hpre, by simpa using hc, rfl⟩⟩

/-! ## Looking up -/

/-- In a registry of clients with distinct keys, a key finds exactly the client holding it. -/
theorem lookup_eq_some_iff {cs : List Client} (h : KeysDistinct cs) (key : String) (c : Client) :
    (Registry.mk cs).lookup key = some c ↔ c ∈ cs ∧ c.apiKey = key := by
  simp only [lookup]
  constructor
  · intro hfind
    exact ⟨List.mem_of_find?_eq_some hfind, by simpa using List.find?_some hfind⟩
  · rintro ⟨hc, rfl⟩
    -- some client holds the key, and distinct keys make it `c`
    have hsome : (cs.find? (·.apiKey == c.apiKey)).isSome := List.find?_isSome.mpr ⟨c, hc, by simp⟩
    obtain ⟨d, hfind⟩ := Option.isSome_iff_exists.mp hsome
    have hd := List.mem_of_find?_eq_some hfind
    have hdkey : d.apiKey = c.apiKey := by simpa using List.find?_some hfind
    rw [hfind, List.inj_on_of_nodup_map h.2 hd hc hdkey]

end Ledger.Auth.Registry

namespace Ledger.Config

open Auth Auth.Registry

/-- One client check of `validate`: the client has an API key and a secret key, and no client
before it has its API key. The keys seen so far are kept newest first. -/
def checkClient (seen : Except String (List String)) (cl : Client) : Except String (List String) := do
  let seen ← seen
  if cl.apiKey.isEmpty || cl.secretKey.isEmpty then
    throw ("client " ++ Text.quoteString cl.name ++ " must have an apiKey and a secretKey")
  if seen.contains cl.apiKey then throw ("duplicate apiKey for client " ++ Text.quoteString cl.name)
  pure (cl.apiKey :: seen)

theorem ite_error_eq_ok {ε α : Type} {p : Prop} [Decidable p] {e : ε} {k : Except ε α} {b : α} :
    ((if p then .error e else k) = .ok b) ↔ ¬p ∧ k = .ok b := by
  by_cases hp : p <;> simp [hp]

/-- Settings that pass validation passed the client checks. -/
theorem validate_checks_clients {c : Config} (h : validate c = .ok ()) :
    ∃ keys, c.clients.foldl checkClient (.ok []) = .ok keys := by
  unfold validate at h
  -- a failed check throws past the rest; resolving the throws first leaves each join point
  -- used once, so the checks can be read off in order
  simp -zeta only [except_throw, except_error_bind] at h
  simp only [ite_error_eq_ok] at h
  obtain ⟨-, -, -, -, -, -, -, -, -, hclients⟩ := h
  cases hfold : c.clients.foldl checkClient (.ok []) with
  | ok keys => exact ⟨keys, rfl⟩
  | error e =>
    change (do let _ ← c.clients.foldl checkClient (.ok []); pure ()) = Except.ok () at hclients
    rw [hfold] at hclients
    cases hclients

theorem checkClient_eq_ok {seen keys : List String} {cl : Client}
    (h : checkClient (.ok seen) cl = .ok keys) : cl.apiKey ≠ "" ∧ cl.apiKey ∉ seen ∧ keys = cl.apiKey :: seen := by
  simp only [checkClient, except_ok_bind, Bool.or_eq_true, String.isEmpty_iff] at h
  by_cases hempty : cl.apiKey = "" ∨ cl.secretKey = ""
  · simp [hempty, except_throw] at h
  by_cases hseen : cl.apiKey ∈ seen
  · simp [hempty, hseen, except_throw] at h
  simp only [hempty, List.contains_iff_mem, hseen, if_false] at h
  exact ⟨(not_or.mp hempty).1, hseen, (Except.ok.inj h).symm⟩

@[simp]
theorem foldl_checkClient_error (e : String) (cs : List Client) :
    cs.foldl checkClient (.error e) = .error e := by
  induction cs with
  | nil => rfl
  | cons c cs ih => exact ih

/-- Clients that pass the checks have distinct keys, none of them seen before. -/
theorem foldl_checkClient_eq_ok {cs : List Client} {seen keys : List String}
    (h : cs.foldl checkClient (.ok seen) = .ok keys) : KeysDistinct cs ∧ ∀ c ∈ cs, c.apiKey ∉ seen := by
  induction cs generalizing seen with
  | nil => simp
  | cons cl cs ih =>
    rw [List.foldl_cons] at h
    cases hstep : checkClient (.ok seen) cl with
    | error e => rw [hstep, foldl_checkClient_error] at h; cases h
    | ok seen' =>
      obtain ⟨hkey, hfresh, rfl⟩ := checkClient_eq_ok hstep
      rw [hstep] at h
      obtain ⟨⟨hkeys, hnodup⟩, hrest⟩ := ih h
      refine ⟨⟨?_, ?_⟩, ?_⟩
      · simpa [hkey] using hkeys
      · -- the later keys avoid this one, which the check added to those seen
        refine List.nodup_cons.mpr ⟨fun hmem => ?_, hnodup⟩
        obtain ⟨d, hd, hdkey⟩ := List.mem_map.mp hmem
        exact hrest d hd (by simp [hdkey])
      · intro c hc
        rcases List.mem_cons.mp hc with rfl | hc
        · exact hfresh
        · exact fun hmem => hrest c hc (List.mem_cons_of_mem _ hmem)

/-- The clients of settings that pass validation have keys, all distinct. -/
theorem keysDistinct_of_validate {c : Config} (h : validate c = .ok ()) : KeysDistinct c.clients := by
  obtain ⟨keys, hfold⟩ := validate_checks_clients h
  exact (foldl_checkClient_eq_ok hfold).1

end Ledger.Config

namespace Ledger.Auth.Registry

/-- A registry indexes its clients faithfully: building fails exactly on a missing or shared
key, naming the first clash, and otherwise finds each key's one client; validated settings
always build. -/
theorem registry_indexes_clients (cs : List Client) :
    ((∃ e, build cs = .error e) ↔ (∃ c ∈ cs, c.apiKey = "") ∨ ¬(cs.map (·.apiKey)).Nodup) ∧
    (∀ e, build cs = .error e ↔
      ∃ pre c post, cs = pre ++ c :: post ∧ KeysDistinct pre ∧ Clashes pre c ∧ e = refusal c) ∧
    (KeysDistinct cs → ∃ r, build cs = .ok r ∧
      ∀ key c, r.lookup key = some c ↔ c ∈ cs ∧ c.apiKey = key) ∧
    ∀ cfg : Config, cfg.clients = cs → Config.validate cfg = .ok () → ∃ r, build cs = .ok r := by
  refine ⟨?_, build_eq_error_iff cs, fun h => ⟨_, build_of_keysDistinct h, lookup_eq_some_iff h⟩, ?_⟩
  · rw [build_fails_iff, KeysDistinct, not_and_or]
    simp
  · rintro cfg rfl hvalid
    exact ⟨_, build_of_keysDistinct (Config.keysDistinct_of_validate hvalid)⟩

/-- Two clients sharing a key: building refuses the second, by name. -/
theorem registry_indexes_clients_of_shared_key :
    let a : Client := ⟨"alpha", "key-1", "secret-1", none⟩
    let b : Client := ⟨"beta", "key-1", "secret-2", none⟩
    build [a, b] = .error (refusal b) ∧
      refusal b = "duplicate API key for client " ++ Text.quoteString "beta" := by
  intro a b
  have hdistinct : KeysDistinct [a] := by simp [KeysDistinct, a]
  have hclash : Clashes [a] b := .inr (by simp [a, b])
  exact ⟨((registry_indexes_clients [a, b]).2.1 _).mpr ⟨[a], b, [], rfl, hdistinct, hclash, rfl⟩,
    by simp [refusal, b]⟩

end Ledger.Auth.Registry
