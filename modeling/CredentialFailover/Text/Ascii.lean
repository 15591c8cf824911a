/-
ASCII octets by name, digits and hexadecimal digits.

Readers of octet texts match on these names, so that a grammar can be read off its reader. `digit` and `hexDigit?`
give the value of a digit; `hexText` writes a number in lower-case hexadecimal without padding.

Main fact: `lower_of_toList` (a text in lower case, character by character).
-/
namespace CredentialFailover.Ascii

@[match_pattern] abbrev tab : UInt8 := 0x09
@[match_pattern] abbrev lineFeed : UInt8 := 0x0A
@[match_pattern] abbrev carriageReturn : UInt8 := 0x0D
@[match_pattern] abbrev space : UInt8 := 0x20
@[match_pattern] abbrev quote : UInt8 := 0x22
@[match_pattern] abbrev plus : UInt8 := 0x2B
@[match_pattern] abbrev comma : UInt8 := 0x2C
@[match_pattern] abbrev minus : UInt8 := 0x2D
@[match_pattern] abbrev dot : UInt8 := 0x2E
@[match_pattern] abbrev slash : UInt8 := 0x2F
@[match_pattern] abbrev zero : UInt8 := 0x30
@[match_pattern] abbrev colon : UInt8 := 0x3A
@[match_pattern] abbrev upperE : UInt8 := 0x45
@[match_pattern] abbrev openBracket : UInt8 := 0x5B
@[match_pattern] abbrev backslash : UInt8 := 0x5C
@[match_pattern] abbrev closeBracket : UInt8 := 0x5D
@[match_pattern] abbrev lowerE : UInt8 := 0x65
@[match_pattern] abbrev lowerU : UInt8 := 0x75
@[match_pattern] abbrev openBrace : UInt8 := 0x7B
@[match_pattern] abbrev closeBrace : UInt8 := 0x7D
@[match_pattern] abbrev delete : UInt8 := 0x7F

/-- an octet that is a decimal digit -/
def isDigit (b : UInt8) : Bool := 0x30 ≤ b && b ≤ 0x39

/-- the value of a decimal digit; meant for octets that satisfy `isDigit` -/
def digit (b : UInt8) : Nat := b.toNat - 0x30

/-- the value of a hexadecimal digit of either case -/
def hexDigit? (b : UInt8) : Option Nat :=
  if 0x30 ≤ b && b ≤ 0x39 then some (b.toNat - 0x30)
  else if 0x41 ≤ b && b ≤ 0x46 then some (b.toNat - 0x37)
  else if 0x61 ≤ b && b ≤ 0x66 then some (b.toNat - 0x57)
  else none

/-- the value of a hexadecimal digit given as a character -/
def hexValue? (c : Char) : Option Nat :=
  if c.toNat < 128 then hexDigit? c.toNat.toUInt8 else none

/-- a number in lower-case hexadecimal, without leading zeros -/
def hexText (n : Nat) : List Char := Nat.toDigits 16 n

/-- a number below 256 as two hexadecimal digits of the given alphabet -/
def hexPair (digits : Nat → Char) (n : Nat) : List Char := [digits (n / 16), digits (n % 16)]

/-- a hexadecimal digit in lower case -/
def lowerHex (n : Nat) : Char := if n < 10 then Char.ofNat (0x30 + n) else Char.ofNat (0x57 + n)

/-- a hexadecimal digit in upper case -/
def upperHex (n : Nat) : Char := if n < 10 then Char.ofNat (0x30 + n) else Char.ofNat (0x37 + n)

/-- an ASCII text without its upper-case letters; characters beyond ASCII stay -/
def lower (s : String) : String := s.map Char.toLower

theorem lower_of_toList {s t : String} (h : s.toList.map Char.toLower = t.toList) : lower s = t := by
  rw [← String.toList_inj, lower, String.toList_map, h]

end CredentialFailover.Ascii
