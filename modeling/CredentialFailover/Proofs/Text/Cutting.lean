/-
Cutting and trimming, compared with what they leave.

Trimming takes a run of the class off each end and stops at the first character that is not of it, so what is left lies
between two such runs and has none of the class at its ends; a text has only one such middle. The pieces of a text are
those of the list that it is.

Main facts: `span_append` (where a run ends), `exists_around_trim`, `trim_of_around` (what is left is the middle, and the
only one), `pieces_eq_splitOnP`, `eq_false_of_mem_splitOnP` (no piece has a character at which the text is cut).
-/
import Mathlib.Data.List.DropRight
import Mathlib.Tactic
import CredentialFailover.Text.Blank
import CredentialFailover.Text.Pieces

namespace CredentialFailover.Text

variable {p : Char → Bool}

/-! ## Runs -/

/-- a run of a class ends where the rest begins with something else -/
theorem span_append {α : Type} {p : α → Bool} {run rest : List α} (hrun : ∀ a ∈ run, p a = true)
    (hrest : ∀ a ∈ rest.head?, p a = false) :
    (run ++ rest).takeWhile p = run ∧ (run ++ rest).dropWhile p = rest := by
  rw [List.takeWhile_append_of_pos hrun, List.dropWhile_append_of_pos hrun]
  cases rest with
  | nil => exact ⟨List.append_nil run, rfl⟩
  | cons a rest =>
    have ha : p a = false := hrest a rfl
    simp [ha]

/-! ## Trimming -/

theorem trimEnd_eq_rdropWhile (p : Char → Bool) (cs : List Char) : trimEnd p cs = cs.rdropWhile p := rfl

/-- what trimming takes off belongs to the class -/
theorem exists_around_trim (p : Char → Bool) (cs : List Char) :
    ∃ before after, cs = before ++ trim p cs ++ after ∧ ∀ c ∈ before ++ after, p c = true := by
  refine ⟨cs.takeWhile p, (cs.dropWhile p).rtakeWhile p, ?_, ?_⟩
  · rw [trim, trimEnd_eq_rdropWhile, List.append_assoc, List.rdropWhile_append_rtakeWhile,
      List.takeWhile_append_dropWhile]
  · intro c hc
    rcases List.mem_append.1 hc with hc | hc
    · exact List.mem_takeWhile_imp hc
    · exact List.mem_rtakeWhile_imp hc

theorem head?_dropWhile {α : Type} {p : α → Bool} {cs : List α} {c : α} (h : c ∈ (cs.dropWhile p).head?) :
    p c = false := by
  have hnot := List.head?_dropWhile_not p cs
  rw [h] at hnot
  exact hnot

theorem head?_trim {cs : List Char} {c : Char} (h : c ∈ (trim p cs).head?) : p c = false := by
  obtain ⟨rest, hrest⟩ := List.rdropWhile_prefix p (cs.dropWhile p)
  obtain ⟨middle, hmiddle⟩ := List.head?_eq_some_iff.1 h
  rw [trim, trimEnd_eq_rdropWhile] at hmiddle
  have hhead : c ∈ (cs.dropWhile p).head? := by
    rw [← hrest, hmiddle]
    rfl
  exact head?_dropWhile hhead

theorem getLast?_trim {cs : List Char} {c : Char} (h : c ∈ (trim p cs).getLast?) : p c = false := by
  rw [trim, trimEnd, List.getLast?_reverse] at h
  exact head?_dropWhile h

/-- a middle without the class at its ends is what trimming leaves -/
theorem trim_of_around {before middle after : List Char} (haround : ∀ c ∈ before ++ after, p c = true)
    (hfirst : ∀ c ∈ middle.head?, p c = false) (hlast : ∀ c ∈ middle.getLast?, p c = false) :
    trim p (before ++ middle ++ after) = middle := by
  have hbefore : ∀ c ∈ before, p c = true := fun c hc => haround c (List.mem_append_left _ hc)
  have hafter : ∀ c ∈ after, p c = true := fun c hc => haround c (List.mem_append_right _ hc)
  cases middle with
  | nil =>
    refine (trim_eq_nil_iff p _).2 ?_
    simpa using haround
  | cons c cs =>
    have hc : p c = false := hfirst c rfl
    have hdrop : (before ++ c :: cs ++ after).dropWhile p = c :: cs ++ after := by
      rw [List.append_assoc, List.dropWhile_append_of_pos hbefore, List.cons_append,
        List.dropWhile_cons_of_neg (by simp [hc])]
    have hreverse : (c :: cs).reverse.dropWhile p = (c :: cs).reverse := by
      cases h : (c :: cs).reverse with
      | nil => rfl
      | cons d ds =>
        have hd : d ∈ (c :: cs).getLast? := by rw [← List.head?_reverse, h]; rfl
        rw [List.dropWhile_cons_of_neg (by simp [hlast d hd])]
    rw [trim, hdrop, trimEnd, List.reverse_append, List.dropWhile_append_of_pos (by simpa using hafter), hreverse,
      List.reverse_reverse]

/-! ## Cutting -/

theorem pieces_eq_splitOnP (p : Char → Bool) (cs : List Char) : pieces p cs = cs.splitOnP p := by
  induction cs with
  | nil => rfl
  | cons c cs ih =>
    rw [pieces, List.splitOnP_cons_eq_if_modifyHead, ← ih]
    split
    · rfl
    · cases hpieces : pieces p cs with
      | nil => exact absurd hpieces (pieces_ne_nil p cs)
      | cons x xs => rfl

/-- a text without the class is its only piece -/
theorem pieces_of_clean {cs : List Char} (h : ∀ c ∈ cs, p c = false) : pieces p cs = [cs] := by
  rw [pieces_eq_splitOnP, List.splitOnP_eq_singleton]
  exact h

/-- a piece has none of the class -/
theorem eq_false_of_mem_splitOnP {cs piece : List Char} (h : piece ∈ cs.splitOnP p) {c : Char} (hc : c ∈ piece) :
    p c = false := by
  induction cs generalizing piece with
  | nil =>
    rw [List.splitOnP_nil, List.mem_singleton] at h
    subst h
    cases hc
  | cons d ds ih =>
    rw [List.splitOnP_cons_eq_if_modifyHead] at h
    split_ifs at h with hd
    · rcases List.mem_cons.1 h with rfl | h
      · cases hc
      · exact ih h hc
    · obtain ⟨x, xs, hx⟩ := List.exists_cons_of_ne_nil (List.splitOnP_ne_nil p ds)
      rw [hx, List.modifyHead_cons] at h
      rcases List.mem_cons.1 h with rfl | h
      · rcases List.mem_cons.1 hc with rfl | hc
        · exact eq_false_of_ne_true hd
        · exact ih (hx ▸ List.mem_cons_self ..) hc
      · exact ih (hx ▸ List.mem_cons_of_mem _ h) hc

end CredentialFailover.Text
