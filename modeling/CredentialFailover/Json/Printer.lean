/-
Writing a JSON document.

Characters below the space, the quotation mark and the backslash are escaped, all others stand for themselves. `compact`
puts nothing between tokens; `pretty` puts every item and member on a line of its own, two spaces deeper than what holds
it, and keeps an empty list or object on one line.
-/
import CredentialFailover.Text.Ascii
import CredentialFailover.Decimal.Shortest
import CredentialFailover.Json.Value

namespace CredentialFailover.Json

/-- how binary64 values are set: positional from 1e-5 up to 1e16, a whole one with a zero after its point, an exponent with
its sign -/
def numberStyle : Decimal.Style := ⟨some (-4, 16), ".0", "+"⟩

/-- a character inside a text -/
def escaped (c : Char) : List Char :=
  if c == '"' then ['\\', '"']
  else if c == '\\' then ['\\', '\\']
  else if c == '\x08' then ['\\', 'b']
  else if c == '\t' then ['\\', 't']
  else if c == '\n' then ['\\', 'n']
  else if c == '\x0C' then ['\\', 'f']
  else if c == '\r' then ['\\', 'r']
  else if c.toNat < 0x20 then ['\\', 'u', '0', '0'] ++ Ascii.hexPair Ascii.lowerHex c.toNat
  else [c]

/-- a text in quotation marks -/
def quoted (s : String) : List Char := '"' :: s.toList.flatMap escaped ++ ['"']

/-- a number -/
def Number.print : Number → List Char
  | .integer n => (toString n).toList
  | .binary64 bits => (Decimal.binary64.text numberStyle bits.toNat).toList

mutual

/-- a document without blanks between tokens -/
def Value.compactChars : Value → List Char
  | .null => "null".toList
  | .boolean b => (if b then "true" else "false").toList
  | .number n => n.print
  | .text s => quoted s
  | .list vs => '[' :: compactItems vs ++ [']']
  | .object ms => '\x7b' :: compactMembers ms ++ ['\x7d']

/-- items with commas between them -/
def compactItems : List Value → List Char
  | [] => []
  | [v] => v.compactChars
  | v :: w :: vs => v.compactChars ++ ',' :: compactItems (w :: vs)

/-- members with commas between them -/
def compactMembers : List (String × Value) → List Char
  | [] => []
  | [(k, v)] => quoted k ++ ':' :: v.compactChars
  | (k, v) :: m :: ms => quoted k ++ ':' :: v.compactChars ++ ',' :: compactMembers (m :: ms)

end

/-- a new line at a depth -/
def newLine (depth : Nat) : List Char := '\n' :: List.replicate (2 * depth) ' '

mutual

/-- a document with items and members on lines of their own, itself at a depth -/
def Value.prettyChars (depth : Nat) : Value → List Char
  | .null => "null".toList
  | .boolean b => (if b then "true" else "false").toList
  | .number n => n.print
  | .text s => quoted s
  | .list [] => ['[', ']']
  | .list (v :: vs) => '[' :: newLine (depth + 1) ++ prettyItems (depth + 1) (v :: vs) ++ newLine depth ++ [']']
  | .object [] => ['\x7b', '\x7d']
  | .object (m :: ms) =>
    '\x7b' :: newLine (depth + 1) ++ prettyMembers (depth + 1) (m :: ms) ++ newLine depth ++ ['\x7d']

/-- items on lines of their own -/
def prettyItems (depth : Nat) : List Value → List Char
  | [] => []
  | [v] => v.prettyChars depth
  | v :: w :: vs => v.prettyChars depth ++ ',' :: newLine depth ++ prettyItems depth (w :: vs)

/-- members on lines of their own -/
def prettyMembers (depth : Nat) : List (String × Value) → List Char
  | [] => []
  | [(k, v)] => quoted k ++ ':' :: ' ' :: v.prettyChars depth
  | (k, v) :: m :: ms =>
    quoted k ++ ':' :: ' ' :: v.prettyChars depth ++ ',' :: newLine depth ++ prettyMembers depth (m :: ms)

end

/-- a document without blanks between tokens -/
def Value.compact (v : Value) : String := String.ofList v.compactChars

/-- a document with items and members on lines of their own -/
def Value.pretty (v : Value) : String := String.ofList (v.prettyChars 0)

end CredentialFailover.Json
