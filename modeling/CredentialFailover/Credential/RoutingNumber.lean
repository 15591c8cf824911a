/-
Routing numbers: the integer at the front of a text, held to 64 bits with sign.

Blanks and one sign may come first; the digits end at the first character that is none, and what follows does not matter.
A text without digits means zero. Each digit is taken in with saturation, so that a number beyond the bounds ends on the
bound of its sign.
-/
import CredentialFailover.Text.Blank

namespace CredentialFailover.RoutingNumber

/-- the least number -/
def least : Int := -9223372036854775808

/-- the greatest number -/
def greatest : Int := 9223372036854775807

/-- the nearest number within the bounds -/
def saturate (n : Int) : Int := if n < least then least else if greatest < n then greatest else n

/-- a number with one more digit, away from zero -/
def push (negative : Bool) (value : Int) (c : Char) : Int :=
  let digit : Int := (c.toNat - '0'.toNat : Nat)
  saturate (if negative then saturate (value * 10) - digit else saturate (value * 10) + digit)

/-- the sign at the front of a text, which may be left out: whether it is a minus, and the rest -/
def sign : List Char → Bool × List Char
  | '-' :: cs => (true, cs)
  | '+' :: cs => (false, cs)
  | cs => (false, cs)

/-- the number at the front of a text -/
def leading (raw : String) : Int :=
  let (negative, cs) := sign (raw.toList.dropWhile Text.isBlank)
  (cs.takeWhile Char.isDigit).foldl (push negative) 0

end CredentialFailover.RoutingNumber
