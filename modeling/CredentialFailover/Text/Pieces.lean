/-
Cutting a text at the characters of a class.

Main fact: `pieces_ne_nil` (there is one piece more than there are cuts, so there is always one).
-/
namespace CredentialFailover.Text

/-- the pieces of a text between the characters of a class, one more than there are such characters -/
def pieces (p : Char → Bool) : List Char → List (List Char)
  | [] => [[]]
  | c :: cs =>
    if p c then [] :: pieces p cs
    else match pieces p cs with
      | [] => [[c]]
      | x :: xs => (c :: x) :: xs

theorem pieces_ne_nil (p : Char → Bool) (cs : List Char) : pieces p cs ≠ [] := by
  cases cs with
  | nil => simp [pieces]
  | cons c cs =>
    simp only [pieces]
    split
    · simp
    · split <;> simp

end CredentialFailover.Text
