/-
The attempts that a walk has before it, and what it makes of them.

`replies` are the answers of a transport when candidates are asked one after the other, each from the state that the one
before left behind, whether or not any of them is good; `attempts` are the same answers judged. A walk makes the attempts
up to the first credential, `first?`; the candidates in front of it are `passed` over. Everything a walk leaves behind but
its log is a function of these.

Main fact: `walkFrom_spec`.
-/
import Mathlib.Tactic
import CredentialFailover.Acquisition.Walk

namespace CredentialFailover

/-- a reply is judged stage by stage, and the first stage that fails gives the fault -/
theorem Reply.credential_eq_stages {σ : Type} (r : Reply σ) :
    r.credential = (do
      let response ← r.result
      let document ← response.document
      Credential.ofDocument document) := by
  unfold Reply.credential Response.credential
  cases hresult : r.result with
  | error fault => rfl
  | ok response =>
    cases hdocument : response.document with
    | error fault => simp only [bind, Except.bind, hdocument]
    | ok d => simp only [bind, Except.bind, hdocument]

namespace Acquisition

variable {σ : Type}

/-! ## Attempts -/

/-- the answers to requests for all candidates, one after the other -/
def replies (transport : Transport σ) : List Endpoint → σ → List (Reply σ)
  | [], _ => []
  | e :: es, s => transport e s :: replies transport es (transport e s).after

/-- what comes of each of those answers -/
def attempts (transport : Transport σ) (es : List Endpoint) (s : σ) : List (Except Fault Credential) :=
  (replies transport es s).map Reply.credential

/-- the state of a transport after requests for all candidates -/
def stateAfter (transport : Transport σ) (es : List Endpoint) (s : σ) : σ :=
  es.foldl (fun s e => (transport e s).after) s

/-- the first credential -/
def first? : List (Except Fault Credential) → Option Credential
  | [] => none
  | .ok c :: _ => some c
  | .error _ :: as => first? as

/-- the failures of the candidates in front of the first credential -/
def passed : List Endpoint → List (Except Fault Credential) → List EndpointFailure
  | e :: es, .error fault :: as => fault.failureOf e :: passed es as
  | _, _ => []

theorem length_attempts (transport : Transport σ) (es : List Endpoint) (s : σ) :
    (attempts transport es s).length = es.length := by
  induction es generalizing s with
  | nil => rfl
  | cons e es ih =>
    have hrest := ih (transport e s).after
    simp only [attempts, replies, List.map_cons, List.length_cons] at hrest ⊢
    omega

theorem attempts_cons (transport : Transport σ) (e : Endpoint) (es : List Endpoint) (s : σ) :
    attempts transport (e :: es) s =
      (transport e s).credential :: attempts transport es (transport e s).after := rfl

/-! ## By position -/

/-- the first position with a credential is behind as many failures as it has positions before it -/
theorem passed_of_success {es : List Endpoint} {as : List (Except Fault Credential)} (hlength : as.length = es.length)
    {p : ℕ} {c : Credential} (hp : as[p]? = some (.ok c))
    (hbefore : ∀ i < p, ∃ fault, as[i]? = some (.error fault)) :
    first? as = some c ∧ (passed es as).length = p := by
  induction p generalizing es as with
  | zero =>
    cases as with
    | nil => cases hp
    | cons a as =>
      rw [List.getElem?_cons_zero, Option.some.injEq] at hp
      subst hp
      refine ⟨rfl, ?_⟩
      cases es <;> rfl
  | succ p ih =>
    cases as with
    | nil => cases hp
    | cons a as =>
      cases es with
      | nil => cases hlength
      | cons e es =>
        obtain ⟨fault, hfault⟩ := hbefore 0 (Nat.succ_pos p)
        rw [List.getElem?_cons_zero, Option.some.injEq] at hfault
        subst hfault
        have hrest : ∀ i < p, ∃ fault, as[i]? = some (.error fault) := by
          intro i hi
          exact hbefore (i + 1) (Nat.succ_lt_succ hi)
        obtain ⟨hfirst, hpassed⟩ := ih (Nat.succ.inj hlength) hp hrest
        exact ⟨hfirst, congrArg Nat.succ hpassed⟩

/-- without a credential every candidate is passed over, with the fault of its own attempt -/
theorem passed_of_failures {es : List Endpoint} {as : List (Except Fault Credential)} (hlength : as.length = es.length)
    (h : ∀ a ∈ as, ∃ fault, a = .error fault) :
    first? as = none ∧ (passed es as).length = es.length ∧
      ∀ (i : ℕ) (e : Endpoint), es[i]? = some e →
        ∃ fault, as[i]? = some (.error fault) ∧ (passed es as)[i]? = some (fault.failureOf e) := by
  induction as generalizing es with
  | nil =>
    obtain rfl := List.length_eq_zero_iff.1 hlength.symm
    exact ⟨rfl, rfl, fun i e he => by cases he⟩
  | cons a as ih =>
    cases es with
    | nil => cases hlength
    | cons e es =>
      obtain ⟨fault, rfl⟩ := h a (List.mem_cons_self ..)
      obtain ⟨hfirst, hpassed, hall⟩ := ih (Nat.succ.inj hlength) fun b hb => h b (List.mem_cons_of_mem _ hb)
      refine ⟨hfirst, congrArg Nat.succ hpassed, ?_⟩
      intro i e' he'
      cases i with
      | zero =>
        rw [List.getElem?_cons_zero, Option.some.injEq] at he'
        subst he'
        exact ⟨fault, rfl, rfl⟩
      | succ i => exact hall i e' he'

/-- all candidates are passed over exactly if there is no credential -/
theorem length_passed {es : List Endpoint} {as : List (Except Fault Credential)} (hlength : as.length = es.length) :
    ((first? as).isSome = true ∧ (passed es as).length < es.length) ∨
      (first? as = none ∧ (passed es as).length = es.length) := by
  induction as generalizing es with
  | nil =>
    obtain rfl := List.length_eq_zero_iff.1 hlength.symm
    exact Or.inr ⟨rfl, rfl⟩
  | cons a as ih =>
    cases es with
    | nil => cases hlength
    | cons e es =>
      cases a with
      | ok c => exact Or.inl ⟨rfl, Nat.succ_pos _⟩
      | error fault =>
        rcases ih (Nat.succ.inj hlength) with ⟨hfirst, hpassed⟩ | ⟨hfirst, hpassed⟩
        · exact Or.inl ⟨hfirst, Nat.succ_lt_succ hpassed⟩
        · exact Or.inr ⟨hfirst, congrArg Nat.succ hpassed⟩

/-- the candidates passed over failed in their attempts -/
theorem exists_of_mem_passed {es : List Endpoint} {as : List (Except Fault Credential)} {failure : EndpointFailure}
    (h : failure ∈ passed es as) : ∃ e fault, failure = fault.failureOf e ∧ .error fault ∈ as := by
  induction as generalizing es with
  | nil => cases es <;> cases h
  | cons a as ih =>
    cases es with
    | nil => cases h
    | cons e es =>
      cases a with
      | ok c => cases h
      | error fault =>
        rcases List.mem_cons.1 h with rfl | h
        · exact ⟨e, fault, rfl, List.mem_cons_self ..⟩
        · obtain ⟨e', fault', rfl, hmem⟩ := ih h
          exact ⟨e', fault', rfl, List.mem_cons_of_mem _ hmem⟩

/-- the attempt at a position is the first that gives a credential -/
structure FirstAt (as : List (Except Fault Credential)) (p : ℕ) (c : Credential) : Prop where
  here : as[p]? = some (.ok c)
  before : ∀ i < p, ∃ fault, as[i]? = some (.error fault)

/-- the result of a walk with the failures it began with -/
def resultOf (failures : List EndpointFailure) (es : List Endpoint) (as : List (Except Fault Credential)) :
    Except Fault Credential :=
  match first? as with
  | some c => .ok c
  | none => .error (.allEndpointsFailed (failures ++ passed es as))

/-- what a walk counts -/
def ticksOf (es : List Endpoint) (as : List (Except Fault Credential)) : List Tick :=
  (passed es as).map (fun f => .attempt f.kind.label) ++
    [if (first? as).isSome then .attempt "success" else .failure]

/-- **A walk is determined by its attempts.** It ends with the first credential or with all failures, asks the candidates up
to there, and counts each attempt and, without a credential, the failed acquisition. -/
theorem walkFrom_spec (transport : Transport σ) (failures : List EndpointFailure) (es : List Endpoint) (s : σ) :
    (walkFrom transport failures es s).result = resultOf failures es (attempts transport es s) ∧
      (walkFrom transport failures es s).asked = es.take ((passed es (attempts transport es s)).length + 1) ∧
      (walkFrom transport failures es s).ticks = ticksOf es (attempts transport es s) ∧
      (walkFrom transport failures es s).after =
        stateAfter transport (walkFrom transport failures es s).asked s := by
  induction es generalizing failures s with
  | nil =>
    refine ⟨?_, rfl, rfl, rfl⟩
    have hnone : failures ++ passed [] (attempts transport [] s) = failures := List.append_nil _
    rw [resultOf, hnone]
    rfl
  | cons e es ih =>
    cases hattempt : (transport e s).credential with
    | ok c =>
      rw [attempts_cons, hattempt, walkFrom_cons_ok transport failures e es s hattempt]
      exact ⟨rfl, rfl, rfl, rfl⟩
    | error fault =>
      obtain ⟨hresult, hasked, hticks, hafter⟩ := ih (failures ++ [fault.failureOf e]) (transport e s).after
      rw [attempts_cons, hattempt, walkFrom_cons_error transport failures e es s hattempt]
      refine ⟨?_, congrArg (e :: ·) hasked, congrArg (Tick.attempt fault.kind.label :: ·) hticks, hafter⟩
      have hfailures : failures ++ [fault.failureOf e] ++ passed es (attempts transport es (transport e s).after) =
          failures ++ passed (e :: es) (.error fault :: attempts transport es (transport e s).after) := by
        rw [List.append_assoc]
        rfl
      rw [Trace.before, hresult, resultOf, resultOf, hfailures]
      rfl

/-- a call with candidates is a walk from no failures -/
theorem walk_of_ne_nil (transport : Transport σ) {es : List Endpoint} (h : es ≠ []) (s : σ) :
    walk transport es s = walkFrom transport [] es s := by
  cases es with
  | nil => exact absurd rfl h
  | cons e es => rfl

/-- a call whose first credential comes at a position asks the candidates up to there -/
theorem walk_of_firstAt (transport : Transport σ) {es : List Endpoint} {s : σ} {p : ℕ} {c : Credential}
    (h : FirstAt (attempts transport es s) p c) :
    (walk transport es s).asked = es.take (p + 1) ∧ (walk transport es s).result = .ok c ∧
      (walk transport es s).after = stateAfter transport (es.take (p + 1)) s := by
  have hne : es ≠ [] := by
    rintro rfl
    cases h.here
  obtain ⟨hfirst, hpassed⟩ := passed_of_success (length_attempts transport es s) h.here h.before
  obtain ⟨hresult, hasked, -, hafter⟩ := walkFrom_spec transport [] es s
  rw [hpassed] at hasked
  rw [walk_of_ne_nil transport hne, hafter, hasked, hresult, resultOf, hfirst]
  exact ⟨rfl, rfl, rfl⟩

end Acquisition

end CredentialFailover
