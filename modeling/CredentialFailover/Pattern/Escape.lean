/-
Escapes of a pattern: what follows a backslash.

An escape is a character, a class of characters, or a place. Classes of all scripts are not at hand, so that a class can be
named only where octets are meant, and not its complement, which is not of ASCII. The same is true of places about words.
-/
import CredentialFailover.Pattern.Mode
import CredentialFailover.Text.Ascii

namespace CredentialFailover.Pattern

/-- what an escape stands for -/
inductive Escape where
  /-- a character, which may be given as an octet -/
  | char (c : Char) (octet : Bool)
  /-- digits, blanks, or characters of words -/
  | kind
  /-- a place -/
  | place
  deriving DecidableEq

/-- a character may be taken as it is -/
def Mode.allows (m : Mode) (c : Char) (octet : Bool) : Bool :=
  if m.wide then !m.caseless else !octet || c.toNat < 0x80

/-- so many hexadecimal digits, in front of the rest -/
def codePoint? (m : Mode) : Nat → Nat → List Char → Option (Nat × List Char)
  | 0, value, cs => some (value, cs)
  | n + 1, value, cs =>
    match m.next cs with
    | [] => none
    | c :: cs => (Ascii.hexValue? c).bind fun d => codePoint? m n (16 * value + d) cs

/-- a character by its code point, in front of the rest -/
def numbered? (m : Mode) (digits : Nat) (cs : List Char) : Option (Escape × List Char) :=
  (codePoint? m digits 0 cs).bind fun (n, rest) =>
    if n.isValidChar then some (.char (Char.ofNat n) (digits == 2), rest) else none

/-- an escape, in front of the rest -/
def escape? (m : Mode) : List Char → Option (Escape × List Char)
  | [] => none
  | c :: cs =>
    match c with
    | 'x' => numbered? m 2 cs
    | 'u' => numbered? m 4 cs
    | 'U' => numbered? m 8 cs
    | 'a' => some (.char '\x07' false, cs)
    | 'f' => some (.char '\x0c' false, cs)
    | 't' => some (.char '\t' false, cs)
    | 'n' => some (.char '\n' false, cs)
    | 'r' => some (.char '\r' false, cs)
    | 'v' => some (.char '\x0b' false, cs)
    | 'A' | 'z' => some (.place, cs)
    | 'b' | 'B' | '<' | '>' => if m.wide then none else some (.place, cs)
    | 'd' | 's' | 'w' => if m.wide then none else some (.kind, cs)
    | c => if c.toNat < 0x80 && !c.isAlphanum then some (.char c false, cs) else none

end CredentialFailover.Pattern
