/-
The shortest decimal of a binary floating-point value.

A finite positive value `m · 2^q` stands for every real that rounds to it: those between the midpoints to its neighbours,
the midpoints included when `m` is even. Among decimals of `n` digits the two next to the value are tried, for n = 1, 2,
3, …; the first count with one in the interval wins, of two the nearer, of two equally near the one with the even last
digit. All arithmetic is exact, on naturals.

A `Style` says how digits and exponent are set: where the point may stand in a positional text, what a whole number ends
with, and whether an exponent has a plus.
-/
namespace CredentialFailover

/-- a decimal: digits as a natural, and the power of ten of the last one -/
structure Decimal where
  digits : Nat
  exponent : Int
  deriving DecidableEq

namespace Decimal

/-- the reals that round to a value, as numerators over one denominator -/
structure Interval where
  low : Nat
  value : Nat
  high : Nat
  denominator : Nat
  closed : Bool

/-- the reals that round to `m · 2^q`; `edge` when the neighbour below is only half as far as the one above -/
def Interval.ofBinary (m : Nat) (q : Int) (edge : Bool) : Interval :=
  let low := if edge then 4 * m - 1 else 4 * m - 2
  let up := (q - 2).toNat
  let down := (2 - q).toNat
  ⟨low <<< up, (4 * m) <<< up, (4 * m + 2) <<< up, 1 <<< down, m % 2 == 0⟩

/-- a power of ten -/
def power10 (k : Nat) : Nat := Nat.pow 10 k

/-- the interval in units of a power of ten -/
def Interval.inUnits (i : Interval) (e : Int) : Interval :=
  let up := power10 (-e).toNat
  { i with
    low := i.low * up, value := i.value * up, high := i.high * up, denominator := i.denominator * power10 e.toNat }

/-- whether a natural lies in the interval -/
def Interval.holds (i : Interval) (d : Nat) : Bool :=
  let x := d * i.denominator
  if i.closed then i.low ≤ x && x ≤ i.high else i.low < x && x < i.high

/-- the natural next to the value that lies in the interval: of two the nearer, of two equally near the even one -/
def Interval.nearest? (i : Interval) : Option Nat :=
  let below := i.value / i.denominator
  let above := below + 1
  match i.holds below, i.holds above with
  | false, false => none
  | true, false => some below
  | false, true => some above
  | true, true =>
    let rest := 2 * (i.value % i.denominator)
    if rest < i.denominator then some below
    else if i.denominator < rest then some above
    else if below % 2 = 0 then some below else some above

/-- the number of decimal digits of a natural -/
def length (n : Nat) : Nat := (Nat.toDigits 10 n).length

/-- a power of ten that is at most ten times the value and more than a hundredth of it -/
def Interval.topExponent (i : Interval) : Int :=
  (length i.value : Int) - (length i.denominator : Int)

/-- the first decimal found from a power of ten downwards -/
def search (i : Interval) : Nat → Int → Option Decimal
  | 0, _ => none
  | fuel + 1, e =>
    match (i.inUnits e).nearest? with
    | some 0 => search i fuel (e - 1)
    | some d => some ⟨d, e⟩
    | none => search i fuel (e - 1)

/-- a decimal without zeros at its end -/
def trimmed : Nat → Decimal → Decimal
  | 0, d => d
  | fuel + 1, d => if d.digits % 10 = 0 ∧ d.digits ≠ 0 then trimmed fuel ⟨d.digits / 10, d.exponent + 1⟩ else d

/-- the shortest decimal of a positive value -/
def shortest (m : Nat) (q : Int) (edge : Bool) : Decimal :=
  let i := Interval.ofBinary m q edge
  ((search i 20 i.topExponent).getD ⟨0, 0⟩).trimmed 20

/-- how digits are set: the positions of the point, counted from before the first digit, at which a text is positional
(everywhere, if not given), the end of a whole number, and what stands in front of an exponent that is not negative -/
structure Style where
  positional : Option (Int × Int)
  wholeEnd : String
  exponentSign : String

/-- so many zeros -/
def zeros (n : Nat) : List Char := List.replicate n '0'

/-- a decimal in a style -/
def set (d : Decimal) (style : Style) : String :=
  let ds := Nat.toDigits 10 d.digits
  let point : Int := ds.length + d.exponent
  let inRange := match style.positional with
    | none => true
    | some (least, most) => least ≤ point && point ≤ most
  if inRange then
    if 0 ≤ d.exponent then String.ofList (ds ++ zeros d.exponent.toNat) ++ style.wholeEnd
    else if 0 < point then String.ofList (ds.take point.toNat ++ '.' :: ds.drop point.toNat)
    else String.ofList (['0', '.'] ++ zeros (-point).toNat ++ ds)
  else
    let mantissa := if ds.length = 1 then ds else ds.take 1 ++ '.' :: ds.drop 1
    String.ofList mantissa ++ "e" ++ (if 1 ≤ point then style.exponentSign else "") ++ toString (point - 1)

/-- a binary format: how many bits the fraction has, and the greatest biased exponent -/
structure Format where
  fractionBits : Nat
  specialExponent : Nat
  bias : Nat

/-- the format of 64-bit values -/
def binary64 : Format := ⟨52, 2047, 1075⟩

/-- the format of 32-bit values -/
def binary32 : Format := ⟨23, 255, 150⟩

/-- the shortest text of a finite value given by its bits, the sign bit among them -/
def Format.text (f : Format) (style : Style) (bits : Nat) : String :=
  let fraction := bits % (1 <<< f.fractionBits)
  let biased := (bits >>> f.fractionBits) % (f.specialExponent + 1)
  let negative := 0 < (bits >>> f.fractionBits) / (f.specialExponent + 1)
  let sign := if negative then "-" else ""
  if biased = 0 ∧ fraction = 0 then sign ++ "0" ++ style.wholeEnd
  else
    let m := if biased = 0 then fraction else fraction + 1 <<< f.fractionBits
    let q : Int := (if biased = 0 then 1 else biased : Nat) - (f.bias : Int)
    sign ++ (shortest m q (fraction == 0 && 1 < biased)).set style

end Decimal

end CredentialFailover
