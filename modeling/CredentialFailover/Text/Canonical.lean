/-
The composed form of a text: canonical equivalents are written in one way.

Every character is taken apart, the marks after each base are put in the order of their classes, and what composes is
composed again. A mark composes with the base before it unless a mark between them has at least its class.
-/
import CredentialFailover.Text.Composite

namespace CredentialFailover.Text

/-- a mark in front of characters in order: it moves behind the marks of lower classes that follow it -/
def arrangeMark (c : Char) : List Char → List Char
  | [] => [c]
  | d :: ds =>
    if combiningClass d ≠ 0 && combiningClass d < combiningClass c then d :: arrangeMark c ds else c :: d :: ds

/-- characters with the marks after each base in the order of their classes -/
def arrange (cs : List Char) : List Char := cs.foldr arrangeMark []

/-- whether marks keep the character after them from the base before them -/
def blocks (marks : List Char) (c : Char) : Bool :=
  match marks.getLast? with
  | none => false
  | some m => combiningClass c ≤ combiningClass m

/-- characters after a base and marks that stay with it, composed -/
def composeAfter (base : Char) (marks : List Char) : List Char → List Char
  | [] => base :: marks
  | c :: cs =>
    match if blocks marks c then none else joined? base c with
    | some joined => composeAfter joined marks cs
    | none =>
      if combiningClass c = 0 then base :: marks ++ composeAfter c [] cs else composeAfter base (marks ++ [c]) cs

/-- characters composed; marks in front of the first base stay as they are -/
def compose : List Char → List Char
  | [] => []
  | c :: cs => if combiningClass c = 0 then composeAfter c [] cs else c :: compose cs

/-- the composed form of a text -/
def composed (cs : List Char) : List Char :=
  if cs.all (·.toNat < 0xC0) then cs else compose (arrange (cs.flatMap parts))

end CredentialFailover.Text
