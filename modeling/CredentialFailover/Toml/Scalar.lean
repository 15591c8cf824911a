/-
Values of TOML that stand without marks: truth values, numbers, dates and times.

Such a value is the longest run of the characters that can occur in one; a date and a time may be separated by one space.
Digits may be grouped by underscores, each between two digits. A decimal integer has no zero before its digits; hexadecimal,
octal and binary ones have a prefix and no sign. Dates name existing days, and the seconds of a time may be left out.
-/
import CredentialFailover.Credential.ClientTime
import CredentialFailover.Text.Ascii
import CredentialFailover.Text.Digits
import CredentialFailover.Text.Pieces
import CredentialFailover.Toml.Value

namespace CredentialFailover.Toml

/-- a character that can occur in a value without marks -/
def isBare (c : Char) : Bool := c.isAlphanum || c == '_' || c == '+' || c == '-' || c == '.' || c == ':'

/-- digits, grouped by underscores -/
def grouped? (p : Char → Bool) (cs : List Char) : Option (List Char) :=
  let groups := Text.pieces (· == '_') cs
  if groups.all fun g => !g.isEmpty && g.all p then some groups.flatten else none

/-- the natural that digits write in a base -/
def natural (base : Nat) (cs : List Char) : Nat :=
  cs.foldl (fun n c => n * base + (Ascii.hexValue? c).getD 0) 0

/-- a sign, which may be left out: whether it is a minus, and the rest -/
def sign : List Char → Bool × List Char
  | '-' :: cs => (true, cs)
  | '+' :: cs => (false, cs)
  | cs => (false, cs)

/-- a number with a sign put to it -/
def signed (negative : Bool) (n : Nat) : Int := if negative then -(n : Int) else n

/-- the digits of a decimal integer without sign -/
def integerDigits? (cs : List Char) : Option (List Char) :=
  match grouped? Char.isDigit cs with
  | none => none
  | some ds => if ds.head? = some '0' ∧ 1 < ds.length then none else some ds

/-- a digit of a base up to sixteen -/
def isDigitOf (base : Nat) (c : Char) : Bool :=
  match Ascii.hexValue? c with
  | some d => d < base
  | none => false

/-- an integer in a base given by its prefix -/
def prefixed? : List Char → Option Int
  | '0' :: 'x' :: cs => (grouped? (isDigitOf 16) cs).map fun ds => (natural 16 ds : Int)
  | '0' :: 'o' :: cs => (grouped? (isDigitOf 8) cs).map fun ds => (natural 8 ds : Int)
  | '0' :: 'b' :: cs => (grouped? (isDigitOf 2) cs).map fun ds => (natural 2 ds : Int)
  | _ => none

/-- an integer -/
def integer? (cs : List Char) : Option Int :=
  match prefixed? cs with
  | some n => some n
  | none =>
    let (negative, cs) := sign cs
    (integerDigits? cs).map fun ds => signed negative (natural 10 ds)

/-- an exponent, after its letter -/
def exponent? (cs : List Char) : Option Int :=
  let (negative, cs) := sign cs
  (grouped? Char.isDigit cs).map fun ds => signed negative (natural 10 ds)

/-- a letter that begins an exponent -/
def isExponentMark (c : Char) : Bool := c == 'e' || c == 'E'

/-- a number with point or exponent: integer part, digits after the point, exponent -/
def decimal? (cs : List Char) : Option Value := do
  let (negative, cs) := sign cs
  let mantissa := cs.takeWhile (!isExponentMark ·)
  let rest := cs.dropWhile (!isExponentMark ·)
  let whole := mantissa.takeWhile (· != '.')
  let fraction := mantissa.dropWhile (· != '.')
  if rest.isEmpty && fraction.isEmpty then none
  let wholeDigits ← integerDigits? whole
  let fractionDigits ← if fraction.isEmpty then some [] else grouped? Char.isDigit (fraction.drop 1)
  let exponent ← if rest.isEmpty then some 0 else exponent? (rest.drop 1)
  some (.decimal (signed negative (natural 10 (wholeDigits ++ fractionDigits))) (exponent - fractionDigits.length))

/-- an infinity or a value that is no number, with or without sign -/
def nonFinite? (cs : List Char) : Option Value :=
  let (_, cs) := sign cs
  if cs = "inf".toList ∨ cs = "nan".toList then some .nonFinite else none

/-- a date, in front of the rest -/
def date? (cs : List Char) : Option (List Char) := do
  let (year, cs) ← Text.digits? 4 0 cs
  let cs ← Text.expect? '-' cs
  let (month, cs) ← Text.digits? 2 0 cs
  let cs ← Text.expect? '-' cs
  let (day, cs) ← Text.digits? 2 0 cs
  if 1 ≤ month && month ≤ 12 && 1 ≤ day && day ≤ Calendar.daysInMonth year month then some cs else none

/-- an hour and a minute, in front of the rest -/
def clock? (cs : List Char) : Option (List Char) := do
  let (hour, cs) ← Text.digits? 2 0 cs
  let cs ← Text.expect? ':' cs
  let (minute, cs) ← Text.digits? 2 0 cs
  if hour ≤ 23 && minute ≤ 59 then some cs else none

/-- the fraction of a second, which may be left out, in front of the rest -/
def secondFraction? : List Char → Option (List Char)
  | '.' :: cs => if (cs.takeWhile Char.isDigit).isEmpty then none else some (cs.dropWhile Char.isDigit)
  | cs => some cs

/-- a time of day, in front of the rest -/
def time? (cs : List Char) : Option (List Char) := do
  let cs ← clock? cs
  match cs with
  | ':' :: cs =>
    let (second, cs) ← Text.digits? 2 0 cs
    if second ≤ 60 then secondFraction? cs else none
  | cs => some cs

/-- the offset from universal time, which may be left out, up to the end -/
def isOffset : List Char → Bool
  | [] => true
  | ['Z'] => true
  | ['z'] => true
  | c :: cs => (c == '+' || c == '-') && clock? cs == some []

/-- what may follow a date, up to the end: nothing, or a time with or without offset -/
def isAfterDate : List Char → Bool
  | [] => true
  | c :: cs =>
    (c == 'T' || c == 't' || c == ' ') &&
      match time? cs with
      | some rest => isOffset rest
      | none => false

/-- a date, a time, or both -/
def isMoment (cs : List Char) : Bool :=
  match date? cs with
  | some rest => isAfterDate rest
  | none => time? cs == some []

/-- the value that a run of characters writes -/
def bareValue? (cs : List Char) : Option Value :=
  if cs = "true".toList then some (.boolean true)
  else if cs = "false".toList then some (.boolean false)
  else match integer? cs with
    | some n => some (.integer n)
    | none =>
      match decimal? cs with
      | some v => some v
      | none =>
        match nonFinite? cs with
        | some v => some v
        | none => if isMoment cs then some .moment else none

/-- the characters of a value without marks, and the rest; a date takes a time after one space with it -/
def bareRun (cs : List Char) : List Char × List Char :=
  let run := cs.takeWhile isBare
  match cs.dropWhile isBare with
  | ' ' :: c :: rest =>
    if date? run == some [] && c.isDigit then
      (run ++ ' ' :: (c :: rest).takeWhile isBare, (c :: rest).dropWhile isBare)
    else (run, ' ' :: c :: rest)
  | rest => (run, rest)

/-- a value without marks -/
def bare (cs : List Char) : Option (Value × List Char) :=
  let (run, rest) := bareRun cs
  (bareValue? run).map fun v => (v, rest)

end CredentialFailover.Toml
