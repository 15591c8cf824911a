/-
The inside of a JSON text, from after its opening quotation mark.

A text is scanned one octet at a time. Octets that stand for themselves are kept, escapes give the octets of the character
they name; two escapes may be needed for one character beyond the basic plane. What has been gathered must be UTF-8, which
is asked once the closing quotation mark has been read; if it is not, the fault lies as far in front of the rest as there
are gathered octets from the first ill-formed part on.

Main fact: `scan_append_of_scans` (octets that lead from one resting point to the next give their octets in front of the
rest of the text).
-/
import CredentialFailover.Text.Ascii
import CredentialFailover.Text.Utf8
import CredentialFailover.Json.Fault

namespace CredentialFailover.Json

open Ascii

/-- where a scan stands: between characters, after a backslash, among the four digits of an escape, or between the two
escapes of a pair; `lead` is the first half of a pair, `value` the digits so far unless one of them was none -/
inductive Scan where
  | resting
  | escaped
  | digits (count : Nat) (value : Option Nat) (lead : Option Nat)
  | paired (lead : Nat)
  | pairedEscape (lead : Nat)
  deriving DecidableEq

/-- the character of a short escape -/
def shortEscape? (b : UInt8) : Option UInt8 :=
  if b == quote || b == backslash || b == slash then some b
  else if b == 0x62 then some 0x08
  else if b == 0x66 then some 0x0C
  else if b == 0x6E then some 0x0A
  else if b == 0x72 then some 0x0D
  else if b == 0x74 then some 0x09
  else none

/-- the first half of a pair -/
def isLead (n : Nat) : Bool := 0xD800 ≤ n && n ≤ 0xDBFF

/-- the second half of a pair -/
def isTrail (n : Nat) : Bool := 0xDC00 ≤ n && n ≤ 0xDFFF

/-- the character that two halves make -/
def joined (lead trail : Nat) : Char := Char.ofNat (0x10000 + (lead - 0xD800) * 0x400 + (trail - 0xDC00))

/-- what four digits mean, alone or after a first half -/
def escapeValue (n : Nat) : Option Nat → Except Cause (List UInt8 × Scan)
  | none =>
    if isTrail n then .error .loneSurrogate
    else if isLead n then .ok ([], .paired n)
    else .ok (String.utf8EncodeChar (Char.ofNat n), .resting)
  | some lead =>
    if isTrail n then .ok (String.utf8EncodeChar (joined lead n), .resting) else .error .loneSurrogate

/-- one more digit of an escape -/
def hexStep (value : Option Nat) (b : UInt8) : Option Nat :=
  match value, hexDigit? b with
  | some n, some d => some (n * 16 + d)
  | _, _ => none

/-- one octet that does not close the text: the octets it gives, and where the scan stands after it -/
def scanStep : Scan → UInt8 → Except Cause (List UInt8 × Scan)
  | .resting, b =>
    if b == backslash then .ok ([], .escaped)
    else if b < space then .error .controlCharacter
    else .ok ([b], .resting)
  | .escaped, b =>
    if b == lowerU then .ok ([], .digits 0 (some 0) none)
    else match shortEscape? b with
      | some c => .ok ([c], .resting)
      | none => .error .badEscape
  | .digits count value lead, b =>
    if count < 3 then .ok ([], .digits (count + 1) (hexStep value b) lead)
    else match hexStep value b with
      | some n => escapeValue n lead
      | none => .error .badEscape
  | .paired lead, b => if b == backslash then .ok ([], .pairedEscape lead) else .error .brokenSurrogatePair
  | .pairedEscape lead, b => if b == lowerU then .ok ([], .digits 0 (some 0) (some lead)) else .error .brokenSurrogatePair

/-- the octets of a text up to its closing quotation mark, and the rest after that -/
def scan : Scan → Reader (List UInt8)
  | _, [] => failBefore .endInText []
  | st, b :: bs =>
    if st = .resting ∧ b = quote then .ok ([], bs)
    else match scanStep st b with
      | .error cause => failBefore cause bs
      | .ok (out, st) =>
        match scan st bs with
        | .error failure => .error failure
        | .ok (more, rest) => .ok (out ++ more, rest)

/-- a text, from after its opening quotation mark -/
def text : Reader String := fun bs =>
  match scan .resting bs with
  | .error failure => .error failure
  | .ok (octets, rest) =>
    match Utf8.decode? octets with
    | some s => .ok (s, rest)
    | none => .error ⟨.illFormedText, rest.length + (octets.length - Utf8.soundLength octets)⟩

/-- octets that take a scan from one state to another, and what they give -/
def Scans : Scan → List UInt8 → List UInt8 → Scan → Prop
  | st, [], out, st' => out = [] ∧ st' = st
  | st, b :: bs, out, st' =>
    ¬(st = .resting ∧ b = quote) ∧ ∃ first more next, scanStep st b = .ok (first, next) ∧ Scans next bs more st' ∧
      out = first ++ more

theorem scan_append_of_scans {st st' : Scan} {bs out : List UInt8} (h : Scans st bs out st') (rest : List UInt8) :
    scan st (bs ++ rest) =
      match scan st' rest with
      | .error failure => .error failure
      | .ok (more, rest) => .ok (out ++ more, rest) := by
  induction bs generalizing st out with
  | nil =>
    obtain ⟨rfl, rfl⟩ := h
    simp only [List.nil_append]
    cases scan st' rest <;> rfl
  | cons b bs ih =>
    obtain ⟨hq, first, more, next, hstep, hmore, rfl⟩ := h
    simp only [List.cons_append, scan, if_neg hq, hstep, ih hmore]
    cases scan st' rest with
    | error e => rfl
    | ok p => simp

end CredentialFailover.Json
