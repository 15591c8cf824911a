/-
Counters of attempts and of failed acquisitions.

An attempt is counted under the label of its outcome, a failed acquisition in a counter of its own. A counter that was
never incremented is absent.

Main facts: `attemptsOf_countAll`, `total_countAll`, `failures_countAll` (what a list of ticks adds to each counter).
-/
import CredentialFailover.Keyed

namespace CredentialFailover

/-- the counters: attempts by label, and failed acquisitions -/
structure Tally where
  attempts : List (String × Nat)
  failures : Nat
  ordered : Keyed.Ordered attempts
  deriving DecidableEq

/-- what is counted -/
inductive Tick where
  | attempt (label : String)
  | failure
  deriving DecidableEq

namespace Tally

/-- nothing counted -/
def zero : Tally := ⟨[], 0, List.Pairwise.nil⟩

/-- how many attempts were counted under a label -/
def attemptsOf (t : Tally) (label : String) : Nat := (Keyed.get? label t.attempts).getD 0

/-- how many attempts were counted under any label -/
def total (t : Tally) : Nat := Keyed.sum t.attempts

/-- one more attempt under a label -/
def countAttempt (t : Tally) (label : String) : Tally :=
  { t with
    attempts := Keyed.insert label (t.attemptsOf label + 1) t.attempts
    ordered := Keyed.ordered_insert _ _ t.ordered }

/-- one more failed acquisition -/
def countFailure (t : Tally) : Tally := { t with failures := t.failures + 1 }

/-- one more of what is counted -/
def count (t : Tally) : Tick → Tally
  | .attempt label => t.countAttempt label
  | .failure => t.countFailure

/-- all of what is counted -/
def countAll (t : Tally) (ticks : List Tick) : Tally := ticks.foldl count t

theorem attempts_countAttempt_self (t : Tally) (label : String) :
    (t.countAttempt label).attemptsOf label = t.attemptsOf label + 1 := by
  simp [countAttempt, attemptsOf, Keyed.get?_insert_self]

theorem attempts_countAttempt_of_ne (t : Tally) {label other : String} (h : other ≠ label) :
    (t.countAttempt label).attemptsOf other = t.attemptsOf other := by
  simp [countAttempt, attemptsOf, Keyed.get?_insert_of_ne h]

theorem countAll_cons (t : Tally) (tick : Tick) (ticks : List Tick) :
    t.countAll (tick :: ticks) = (t.count tick).countAll ticks := rfl

theorem attemptsOf_count (t : Tally) (tick : Tick) (label : String) :
    (t.count tick).attemptsOf label = t.attemptsOf label + if tick = .attempt label then 1 else 0 := by
  cases tick with
  | failure => simp [count, countFailure, attemptsOf]
  | attempt other =>
    by_cases h : label = other
    · subst h
      simp [count, attempts_countAttempt_self]
    · simp [count, attempts_countAttempt_of_ne t h, Ne.symm h]

theorem total_countAttempt (t : Tally) (label : String) : (t.countAttempt label).total = t.total + 1 := by
  have h := Keyed.sum_insert label (t.attemptsOf label + 1) t.ordered
  simp only [total, countAttempt, attemptsOf] at h ⊢
  omega

theorem total_count (t : Tally) (tick : Tick) :
    (t.count tick).total = t.total + if tick = .failure then 0 else 1 := by
  cases tick with
  | failure => rfl
  | attempt label => exact total_countAttempt t label

theorem failures_count (t : Tally) (tick : Tick) :
    (t.count tick).failures = t.failures + if tick = .failure then 1 else 0 := by
  cases tick <;> rfl

theorem attemptsOf_countAll (t : Tally) (ticks : List Tick) (label : String) :
    (t.countAll ticks).attemptsOf label = t.attemptsOf label + ticks.count (.attempt label) := by
  induction ticks generalizing t with
  | nil => rfl
  | cons tick ticks ih =>
    rw [countAll_cons, ih, attemptsOf_count, List.count_cons]
    simp only [beq_iff_eq]
    omega

theorem total_countAll (t : Tally) (ticks : List Tick) :
    (t.countAll ticks).total + ticks.count .failure = t.total + ticks.length := by
  induction ticks generalizing t with
  | nil => rfl
  | cons tick ticks ih =>
    have hrest := ih (t.count tick)
    rw [total_count] at hrest
    rw [countAll_cons, List.count_cons, List.length_cons]
    by_cases h : tick = .failure
    · simp only [h, beq_self_eq_true, ite_true] at hrest ⊢
      omega
    · simp only [h, beq_iff_eq, ite_false] at hrest ⊢
      omega

theorem failures_countAll (t : Tally) (ticks : List Tick) :
    (t.countAll ticks).failures = t.failures + ticks.count .failure := by
  induction ticks generalizing t with
  | nil => rfl
  | cons tick ticks ih =>
    rw [countAll_cons, ih, failures_count, List.count_cons]
    simp only [beq_iff_eq]
    omega

/-- the counters by name, those never incremented left out -/
def entries (t : Tally) : List (String × Nat) :=
  t.attempts.map (fun a => ("anisette_endpoint_attempts_total\x7boutcome=" ++ a.1 ++ "\x7d", a.2)) ++
    (if t.failures = 0 then [] else [("anisette_fetch_failures_total", t.failures)])

end Tally

end CredentialFailover
