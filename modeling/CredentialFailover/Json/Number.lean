/-
Numbers as JSON writes them.

The digits before and after the point are gathered into one significand of at most 64 bits; digits for which there is no
room are only counted (before the point) or dropped (after it). A number without point and exponent whose digits all had
room is an integer, if it fits 64 bits with its sign; every other number is the binary64 value of the significand, scaled
by a power of ten. The scaling rounds once more: first the significand, then the product or quotient.
-/
import CredentialFailover.Text.Ascii
import CredentialFailover.Json.Value
import CredentialFailover.Json.Fault

namespace CredentialFailover.Json

open Ascii

/-- the greatest significand -/
def maxSignificand : Nat := 18446744073709551615

/-- the greatest magnitude of a negative integer -/
def maxNegative : Nat := 9223372036854775808

/-- the greatest exponent that is read as such -/
def maxExponent : Nat := 2147483647

/-- a significand with further digits, while there is room, and how many digits found none -/
def absorb (significand : Nat) : List UInt8 → Nat × Nat
  | [] => (significand, 0)
  | d :: ds =>
    if significand * 10 + digit d ≤ maxSignificand then absorb (significand * 10 + digit d) ds
    else (significand, ds.length + 1)

/-- a power of ten as a binary64 value -/
def power10 (k : Nat) : Float := Float.ofScientific 1 false k

/-- a value divided by a power of ten, in steps that a binary64 value can hold; zero stays -/
def shrink (x : Float) (k : Nat) : Float :=
  if k ≤ 308 then x / power10 k
  else if x == 0 then x
  else shrink (x / power10 308) (k - 308)
  termination_by k

/-- the binary64 value of a significand and a power of ten, unless it is too large -/
def scale? (significand : Nat) (exponent : Int) : Option Float :=
  let x := significand.toUInt64.toFloat
  if exponent < 0 then some (shrink x exponent.natAbs)
  else if exponent ≤ 308 then
    let y := x * power10 exponent.toNat
    if y.isInf then none else some y
  else if x == 0 then some x
  else none

/-- a binary64 value with a sign put to it -/
def signed (negative : Bool) (x : Float) : Number := .binary64 (if negative then -x else x).toBits

/-- the end of a number with point or exponent -/
def finish (negative : Bool) (significand : Nat) (exponent : Int) : Reader Number := fun rest =>
  match scale? significand exponent with
  | some x => .ok (signed negative x, rest)
  | none => failBefore .numberOutOfRange rest

/-- the digits of an exponent: its size, or none as soon as it is too large -/
def exponentDigits (size : Nat) : List UInt8 → Option Nat × List UInt8
  | [] => (some size, [])
  | b :: bs =>
    if isDigit b then
      if size * 10 + digit b ≤ maxExponent then exponentDigits (size * 10 + digit b) bs else (none, bs)
    else (some size, b :: bs)

/-- the sign of an exponent, which may be left out: whether the exponent is negative -/
def exponentSign : List UInt8 → Bool × List UInt8
  | plus :: bs => (false, bs)
  | minus :: bs => (true, bs)
  | bs => (false, bs)

/-- an exponent, after its letter -/
def exponent (negative : Bool) (significand : Nat) (start : Int) : Reader Number := fun text =>
  let (down, text) := exponentSign text
  match text with
  | [] => failBefore .endInValue []
  | b :: bs =>
    if isDigit b then
      match exponentDigits (digit b) bs with
      | (some size, rest) => finish negative significand (if down then start - size else start + size) rest
      | (none, rest) =>
        if significand ≠ 0 && !down then failBefore .numberOutOfRange rest
        else .ok (signed negative 0, rest.dropWhile isDigit)
    else failBefore .badNumber bs

/-- what may follow the digits after a point -/
def afterFraction (negative : Bool) (significand : Nat) (start : Int) : Reader Number
  | lowerE :: bs => exponent negative significand start bs
  | upperE :: bs => exponent negative significand start bs
  | bs => finish negative significand start bs

/-- the digits after a point -/
def fraction (negative : Bool) (significand : Nat) (start : Int) : Reader Number := fun text =>
  let digits := text.takeWhile isDigit
  let rest := text.dropWhile isDigit
  if digits.isEmpty then failAt (if text.isEmpty then .endInValue else .badNumber) text
  else
    let (significand, dropped) := absorb significand digits
    afterFraction negative significand (start - (digits.length - dropped : Nat)) rest

/-- a number that ends with its integer part -/
def whole (negative : Bool) (significand : Nat) : Number :=
  if negative then
    if significand = 0 ∨ maxNegative < significand then signed true significand.toUInt64.toFloat
    else .integer (-significand)
  else .integer significand

/-- what may follow the integer part; `uncounted` of its digits found no room -/
def afterInteger (negative : Bool) (significand uncounted : Nat) : Reader Number
  | dot :: bs => fraction negative significand uncounted bs
  | lowerE :: bs => exponent negative significand uncounted bs
  | upperE :: bs => exponent negative significand uncounted bs
  | bs => if uncounted = 0 then .ok (whole negative significand, bs) else finish negative significand uncounted bs

/-- a number, after its sign; a zero stands alone before point and exponent -/
def unsignedNumber (negative : Bool) : Reader Number
  | [] => failBefore .endInValue []
  | b :: bs =>
    if b == zero then
      match bs with
      | c :: _ => if isDigit c then failAt .badNumber bs else afterInteger negative 0 0 bs
      | [] => afterInteger negative 0 0 bs
    else if isDigit b then
      let (significand, uncounted) := absorb 0 (b :: bs.takeWhile isDigit)
      afterInteger negative significand uncounted (bs.dropWhile isDigit)
    else failBefore .badNumber bs

/-- a number, with its sign -/
def number : Reader Number
  | minus :: bs => unsignedNumber true bs
  | bs => unsignedNumber false bs

end CredentialFailover.Json
