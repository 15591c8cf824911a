/-
Texts on one line, and texts made of lines.

What diagnostics quote is on one line, whatever it is quoted from: a text in quotation marks shows a line feed by its
escape, a snippet shows a space in its place, and numbers and places have none. Lines written one below the other are got
back by cutting at the line feeds.

Main facts: `lines_intercalate`, `oneLine_quoted`, `oneLine_ofBody`, `oneLine_describe`.
-/
import Mathlib.Tactic
import CredentialFailover.Json.Fault
import CredentialFailover.Proofs.Text.Decimal
import CredentialFailover.Response.Snippet
import CredentialFailover.Text.Quoted

namespace CredentialFailover

namespace Text

/-- a text without a line feed -/
def OneLine (s : String) : Prop := '\n' ∉ s.toList

instance (s : String) : Decidable (OneLine s) := inferInstanceAs (Decidable ('\n' ∉ s.toList))

/-- the texts between the line feeds of a text -/
def lines (s : String) : List String := (s.split '\n').toList.map fun line => line.copy

theorem oneLine_append {s t : String} : OneLine (s ++ t) ↔ OneLine s ∧ OneLine t := by
  simp [OneLine, not_or]

/-- lines one below the other are got back by cutting -/
theorem lines_intercalate {ls : List String} (hne : ls ≠ []) (h : ∀ l ∈ ls, OneLine l) :
    lines ("\n".intercalate ls) = ls := by
  have hcut := String.toList_split_intercalate h
  rw [if_neg hne] at hcut
  exact hcut

/-! ## Numbers -/

theorem lineFeed_notMem_toDigits {base : ℕ} (hbase : 1 < base) (n : ℕ) : '\n' ∉ Nat.toDigits base n := by
  induction n using Nat.strongRecOn with
  | ind n ih =>
    by_cases hlt : n < base
    · simp [Nat.toDigits_of_lt_base hlt]
    · have hrest := ih (n / base) (Nat.div_lt_self (by omega) hbase)
      simp [Nat.toDigits_of_base_le hbase (not_lt.1 hlt), hrest]

theorem oneLine_toString (n : ℕ) : OneLine (toString n) := by
  rw [OneLine, Nat.toString_eq_ofList_toDigits, String.toList_ofList]
  exact lineFeed_notMem_toDigits (by decide) n

/-! ## Quoted texts -/

/-- no character is shown by a line feed, a line feed itself included -/
theorem lineFeed_notMem_escaped (c : Char) : '\n' ∉ escaped c := by
  have hcodePoint : '\n' ∉ codePoint c := by
    simp [codePoint, Ascii.hexText, lineFeed_notMem_toDigits]
  unfold escaped
  split_ifs with hquote hbackslash htab hfeed hreturn hnul hshown
  any_goals decide
  · rw [List.mem_singleton]
    rintro rfl
    exact hfeed rfl
  · exact hcodePoint

theorem oneLine_quoted (s : String) : OneLine (quoted s) := by
  simp [OneLine, quoted, lineFeed_notMem_escaped]

end Text

open Text (OneLine oneLine_append oneLine_toString)

/-! ## Snippets -/

theorem Snippet.lineFeed_ne_onOneLine (c : Char) : '\n' ≠ onOneLine c := by
  unfold onOneLine
  split_ifs with h
  · decide
  · rintro rfl
    exact h rfl

/-- a snippet is on one line, whatever the octets are that it quotes -/
theorem Snippet.oneLine_ofBody (body : List UInt8) : OneLine (ofBody body) := by
  rw [OneLine, ofBody, String.toList_ofList, chars, List.mem_append, not_or]
  constructor
  · intro h
    obtain ⟨c, -, hc⟩ := List.mem_map.1 h
    exact lineFeed_ne_onOneLine c hc.symm
  · split_ifs <;> decide

/-! ## Places in a document -/

/-- the wording of a failure to read a document, with its place -/
theorem Json.Failure.oneLine_describe (f : Json.Failure) (text : List UInt8) : OneLine (f.describe text) := by
  have hcause : OneLine f.cause.message := by cases f.cause <;> decide
  simp only [describe, oneLine_append]
  exact ⟨⟨⟨⟨hcause, by decide⟩, oneLine_toString _⟩, by decide⟩, oneLine_toString _⟩

end CredentialFailover
