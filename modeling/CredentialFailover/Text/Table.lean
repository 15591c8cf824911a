/-
Tables of code points in writing.

A table is written as lines of items with blanks between them. An item is a code point in hexadecimal, or a range of them,
`41-5a`, of which only every second one is meant where `/2` follows. In a table of replacements the code points that stand
for the first one of the range follow after `>`, with commas between them; those that stand for a later one lie as much
further on.
-/
import CredentialFailover.Text.Ascii
import CredentialFailover.Text.Pieces

namespace CredentialFailover.Text

/-- the number that hexadecimal digits write -/
def codePointOf (cs : List Char) : Nat := cs.foldl (fun n c => 16 * n + (Ascii.hexValue? c).getD 0) 0

/-- both ends of a range in writing -/
def rangeOf (item : List Char) : Nat × Nat :=
  match pieces (· == '-') item with
  | [first, last] => (codePointOf first, codePointOf last)
  | _ => (codePointOf item, codePointOf item)

/-- the items of a line -/
def itemsOf (line : String) : List (List Char) := pieces (· == ' ') line.toList

/-- ranges of code points, with both ends -/
abbrev Ranges := List (Nat × Nat)

namespace Ranges

/-- ranges in writing -/
def ofLines (lines : List String) : Ranges := lines.flatMap fun line => (itemsOf line).map rangeOf

/-- a code point in one of some ranges -/
def hold (rs : Ranges) (n : Nat) : Bool := rs.any fun r => r.1 ≤ n && n ≤ r.2

end Ranges

/-- what stands for the code points of a range -/
structure Replacement where
  first : Nat
  last : Nat
  /-- how far the code points that are meant are apart -/
  step : Nat
  /-- what stands for the first one -/
  target : List Nat

namespace Replacement

/-- what stands for a code point, if the range holds it -/
def value? (r : Replacement) (n : Nat) : Option (List Nat) :=
  if r.first ≤ n && n ≤ r.last && (n - r.first) % r.step == 0 then some (r.target.map (· + (n - r.first))) else none

/-- a replacement in writing -/
def ofItem (item : List Char) : Replacement :=
  let range := item.takeWhile (· ≠ '>')
  let target := (pieces (· == ',') ((item.dropWhile (· ≠ '>')).drop 1)).map codePointOf
  match pieces (· == '/') range with
  | [range, step] => ⟨(rangeOf range).1, (rangeOf range).2, codePointOf step, target⟩
  | _ => ⟨(rangeOf range).1, (rangeOf range).2, 1, target⟩

end Replacement

/-- what stands for the code points of a table -/
abbrev Replacements := List Replacement

namespace Replacements

/-- replacements in writing -/
def ofLines (lines : List String) : Replacements := lines.flatMap fun line => (itemsOf line).map Replacement.ofItem

/-- what stands for a code point, if the table holds it -/
def value? (rs : Replacements) (n : Nat) : Option (List Nat) := rs.findSome? (·.value? n)

end Replacements

end CredentialFailover.Text
