/-
The order of the fields.

Where the fields are gone through one after the other, the first of which something holds decides: it holds of that field
and of none that comes before it. If it holds of any field there is such a first one.

Main facts: `findSome?_all_eq_some_iff` (a search ends at the first field of which it finds something), `exists_isFirst`.
-/
import Mathlib.Tactic
import CredentialFailover.Credential.Field

namespace CredentialFailover.Field

/-- the fields that come before a field -/
def preceding (f : Field) : List Field := all.takeWhile fun g => g ≠ f

/-- the first field of which something holds -/
structure IsFirst (p : Field → Prop) (f : Field) : Prop where
  holds : p f
  before : ∀ g ∈ f.preceding, ¬ p g

theorem nodup_all : all.Nodup := by decide

/-- a field stands between those before it and the others -/
theorem exists_all_eq (f : Field) : ∃ after, all = f.preceding ++ f :: after := by
  cases f <;> exact ⟨_, rfl⟩

theorem preceding_of_all_eq {f : Field} {before after : List Field} (h : all = before ++ f :: after) :
    f.preceding = before := by
  have hnodup : (before ++ f :: after).Nodup := h ▸ nodup_all
  have hbefore : ∀ g ∈ before, decide (g ≠ f) = true := by
    intro g hg
    exact decide_eq_true ((List.nodup_append.1 hnodup).2.2 g hg f (List.mem_cons_self ..))
  rw [preceding, h, List.takeWhile_append_of_pos hbefore, List.takeWhile_cons_of_neg (by simp), List.append_nil]

/-- a search through the fields ends at the first of which it finds something -/
theorem findSome?_all_eq_some_iff {α : Type} {find : Field → Option α} {a : α} :
    all.findSome? find = some a ↔ ∃ f : Field, f.IsFirst (fun g => find g ≠ none) ∧ find f = some a := by
  rw [List.findSome?_eq_some_iff]
  constructor
  · rintro ⟨before, f, after, hall, hfind, hbefore⟩
    refine ⟨f, ⟨by simp [hfind], ?_⟩, hfind⟩
    rw [preceding_of_all_eq hall]
    intro g hg hne
    exact hne (hbefore g hg)
  · rintro ⟨f, hfirst, hfind⟩
    obtain ⟨after, hall⟩ := f.exists_all_eq
    exact ⟨f.preceding, f, after, hall, hfind, fun g hg => not_not.1 (hfirst.before g hg)⟩

/-- what holds of any field holds of a first one -/
theorem exists_isFirst {p : Field → Prop} {f : Field} (h : p f) : ∃ g : Field, g.IsFirst p := by
  classical
  have hsome : all.findSome? (fun g => if p g then some g else none) ≠ none := by
    intro hnone
    have hf := List.findSome?_eq_none_iff.1 hnone f f.mem_all
    rw [if_pos h] at hf
    cases hf
  obtain ⟨_, hfound⟩ := Option.ne_none_iff_exists'.1 hsome
  obtain ⟨g, ⟨hholds, hbefore⟩, -⟩ := findSome?_all_eq_some_iff.1 hfound
  exact ⟨g, by simpa using hholds, fun k hk => by simpa using hbefore k hk⟩

end CredentialFailover.Field
