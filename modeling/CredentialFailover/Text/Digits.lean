/-
Fields of fixed width at the front of a text: so many digits, or one given character.

Main fact: `expect?_eq_some_iff` (what is taken off).
-/
namespace CredentialFailover.Text

/-- so many digits, in front of the rest -/
def digits? : Nat → Nat → List Char → Option (Nat × List Char)
  | 0, value, cs => some (value, cs)
  | _ + 1, _, [] => none
  | n + 1, value, c :: cs => if c.isDigit then digits? n (value * 10 + (c.toNat - '0'.toNat)) cs else none

/-- one given character, in front of the rest -/
def expect? (c : Char) : List Char → Option (List Char)
  | [] => none
  | d :: cs => if d = c then some cs else none

theorem expect?_eq_some_iff {c : Char} {cs rest : List Char} : expect? c cs = some rest ↔ cs = c :: rest := by
  cases cs with
  | nil => simp [expect?]
  | cons d ds => by_cases h : d = c <;> simp [expect?, h]

end CredentialFailover.Text
