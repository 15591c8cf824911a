/-
Bodies in chunks.

A chunk is its size in hexadecimal on a line of its own, so many octets, and the end of a line. Blanks and an extension may
follow a size. A chunk of size zero is the last one; header fields may come after it, and then an empty line. Sizes have 64
bits, and there are limits to extensions and to the fields at the end. Unlike in a head, a line ends with both octets.

Main fact: `scan_of_data` (the octets of a chunk are the octets of the body).
-/
import CredentialFailover.Http.Body
import CredentialFailover.Http.Fields

namespace CredentialFailover.Http.Chunks

open Ascii

/-- where a scan stands -/
inductive Place where
  /-- in front of a size -/
  | start
  | size (n : Nat)
  /-- among the blanks behind a size -/
  | padding (n : Nat)
  | extension (n : Nat)
  /-- after the carriage return behind a size -/
  | sizeEnd (n : Nat)
  /-- among the octets of a chunk, with so many to come after the next one -/
  | data (left : Nat)
  /-- after the octets of a chunk -/
  | dataEnd
  | dataReturn
  /-- at the start of a line after the last chunk -/
  | line
  | field
  | fieldReturn
  /-- after the carriage return of the empty line -/
  | lastReturn
  | finished
  deriving DecidableEq

/-- a scan: where it stands, how many octets of extensions it has passed, the octets after the last chunk with the last one
first, their number, and how many lines they have filled -/
structure Scan where
  place : Place
  passed : Nat
  fields : List UInt8
  count : Nat
  lines : Nat

/-- the start of a body -/
def Scan.start : Scan := ⟨.start, 0, [], 0, 0⟩

/-- the sizes that can be announced are below this one -/
def sizeLimit : Nat := 18446744073709551616

/-- as many octets of extensions, or of fields at the end, are too many -/
def octetLimit : Nat := 16384

/-- as many fields at the end leave no room for another one -/
def maxFields : Nat := 100

namespace Scan

/-- a scan at another place -/
def goTo (s : Scan) (p : Place) : Scan := { s with place := p }

/-- a scan after one more digit of a size -/
def sized (s : Scan) (n : Nat) (d : Nat) : Option Scan :=
  if sizeLimit ≤ 16 * n + d then none else some (s.goTo (.size (16 * n + d)))

/-- a scan after an octet behind a size, which is no digit -/
def afterSize (s : Scan) (n : Nat) (b : UInt8) : Option Scan :=
  if isHeaderBlank b then some (s.goTo (.padding n))
  else if b = 0x3B then some (s.goTo (.extension n))
  else if b = carriageReturn then some (s.goTo (.sizeEnd n))
  else none

/-- a scan that keeps an octet after the last chunk -/
def keep (s : Scan) (b : UInt8) (p : Place) : Option Scan :=
  if octetLimit ≤ s.count + 1 then none else some { s with place := p, fields := b :: s.fields, count := s.count + 1 }

/-- one octet -/
def next (s : Scan) (b : UInt8) : Option Scan :=
  match s.place with
  | .start => (hexDigit? b).bind (s.sized 0)
  | .size n =>
    match hexDigit? b with
    | some d => s.sized n d
    | none => s.afterSize n b
  | .padding n => s.afterSize n b
  | .extension n =>
    if b = carriageReturn then some (s.goTo (.sizeEnd n))
    else if b = lineFeed ∨ octetLimit ≤ s.passed + 1 then none
    else some { s with passed := s.passed + 1 }
  | .sizeEnd n => if b = lineFeed then some (s.goTo (if n = 0 then .line else .data (n - 1))) else none
  | .data left => some (s.goTo (if left = 0 then .dataEnd else .data (left - 1)))
  | .dataEnd => if b = carriageReturn then some (s.goTo .dataReturn) else none
  | .dataReturn => if b = lineFeed then some (s.goTo .start) else none
  | .line =>
    if b ≠ carriageReturn then s.keep b .field
    else if s.fields.isEmpty then some (s.goTo .lastReturn)
    else s.keep b .lastReturn
  | .field => s.keep b (if b = carriageReturn then .fieldReturn else .field)
  | .fieldReturn =>
    if b = lineFeed ∧ s.lines < maxFields then ({ s with lines := s.lines + 1 } : Scan).keep b .line else none
  | .lastReturn =>
    if b ≠ lineFeed then none
    else if s.fields.isEmpty then some (s.goTo .finished)
    else s.keep b .finished
  | .finished => none

/-- whether what a scan has kept at the end are fields, at most one a line -/
def isSound (s : Scan) : Bool :=
  s.fields.isEmpty ||
    match Fields.read s.lines s.fields.reverse with
    | .done .. => true
    | _ => false

/-- whether the next octet belongs to the body -/
def isData (s : Scan) : Bool :=
  match s.place with
  | .data _ => true
  | _ => false

end Scan

/-- a body from a scan on, after octets read before, the last one first -/
def scan (staysOpen : Bool) (s : Scan) (body : List UInt8) : List UInt8 → Body
  | [] => .missing staysOpen
  | b :: bs =>
    match s.next b with
    | none => .broken
    | some t =>
      if t.place = .finished then if t.isSound then .full body.reverse else .broken
      else scan staysOpen t (if s.isData then b :: body else body) bs

/-- a body in chunks -/
def read (staysOpen : Bool) (bs : List UInt8) : Body := scan staysOpen .start [] bs

theorem scan_of_data (staysOpen : Bool) (s : Scan) (body : List UInt8) {left : Nat} (h : s.place = .data left) {ds : List UInt8}
    (hd : ds.length = left + 1) (rest : List UInt8) :
    scan staysOpen s body (ds ++ rest) = scan staysOpen (s.goTo .dataEnd) (ds.reverse ++ body) rest := by
  induction left generalizing s body ds with
  | zero =>
    obtain ⟨d, rfl⟩ := List.length_eq_one_iff.1 hd
    simp [scan, Scan.next, h, Scan.isData, Scan.goTo]
  | succ left ih =>
    obtain ⟨d, ds, rfl⟩ : ∃ d es, ds = d :: es := by
      cases ds with
      | nil => simp at hd
      | cons d es => exact ⟨d, es, rfl⟩
    have := ih (s.goTo (.data left)) (d :: body) rfl (by simpa using hd)
    simp [scan, Scan.next, h, Scan.isData, Scan.goTo] at this ⊢
    exact this

end CredentialFailover.Http.Chunks
