/-
The head of an answer: a line with its version and status, and its header fields.

Empty lines in front of a head are skipped. The version is one of two, the status has three digits, and a few words may
follow it. Heads with an interim status come before the one of the answer proper. There are limits to the number of fields,
to their names, and to a head as a whole.

The limit of a head as a whole is that of a buffer: a head is refused that is still partial when the buffer is full. When
that is depends on how the octets are delivered, as a longer head passes if its end arrives together with what fills the
buffer. Here the octets of a delivery have no such parts, and a head over the limit is refused; that is the worst case over
all ways to deliver it. A head within the limit is read whichever way it arrives.

Main fact: `final_of_read` (a head that is not interim is the one of the answer proper).
-/
import CredentialFailover.Http.Fields

namespace CredentialFailover.Http

open Ascii

/-- the head of an answer -/
structure Head where
  /-- of the version before the current one -/
  old : Bool
  status : Nat
  headers : Headers
  deriving DecidableEq

namespace Head

/-- octets after empty lines -/
def skipEmpty : List UInt8 → Reading Unit
  | [] => .short
  | [carriageReturn] => .short
  | carriageReturn :: lineFeed :: bs => skipEmpty bs
  | carriageReturn :: _ :: _ => .malformed
  | lineFeed :: bs => skipEmpty bs
  | bs => .done () bs

/-- the current version -/
def version : List UInt8 := Utf8.bytes "HTTP/1.1"

/-- the version before it -/
def oldVersion : List UInt8 := Utf8.bytes "HTTP/1.0"

/-- a version: whether it is the old one -/
def readVersion (bs : List UInt8) : Reading Bool :=
  let front := bs.take version.length
  if front = version then .done false (bs.drop version.length)
  else if front = oldVersion then .done true (bs.drop version.length)
  else if front.isPrefixOf version then .short
  else .malformed

/-- one space -/
def readSpace : List UInt8 → Reading Unit
  | [] => .short
  | b :: bs => if b = space then .done () bs else .malformed

/-- so many digits, after the number that the ones before them write -/
def readDigits : Nat → Nat → List UInt8 → Reading Nat
  | 0, n, bs => .done n bs
  | _ + 1, _, [] => .short
  | left + 1, n, b :: bs => if isDigit b then readDigits left (10 * n + digit b) bs else .malformed

/-- the end of a line -/
def readLineEnd : List UInt8 → Reading Unit
  | [] => .short
  | [b] => if b = lineFeed then .done () [] else if b = carriageReturn then .short else .malformed
  | b :: c :: bs =>
    if b = lineFeed then .done () (c :: bs)
    else if b = carriageReturn ∧ c = lineFeed then .done () bs
    else .malformed

/-- words up to the end of a line -/
def readWords : List UInt8 → Reading Unit
  | [] => .short
  | b :: bs => if isValueOctet b then readWords bs else readLineEnd (b :: bs)

/-- what may follow a status, up to the end of its line -/
def readReason : List UInt8 → Reading Unit
  | [] => .short
  | b :: bs => if b = space then readWords bs else readLineEnd (b :: bs)

/-- how many fields a head may have -/
def maxFields : Nat := 100

/-- how long the name of a field in a head may be, in octets -/
def maxName : Nat := 65535

/-- how long a head may be, in octets, to be read whichever way it arrives -/
def maxLength : Nat := 417792

/-- a head of any length -/
def readWhole (bs : List UInt8) : Reading Head :=
  (skipEmpty bs).andThen fun _ bs =>
  (readVersion bs).andThen fun old bs =>
  (readSpace bs).andThen fun _ bs =>
  (readDigits 3 0 bs).andThen fun status bs =>
  (readReason bs).andThen fun _ bs =>
  (Fields.read maxFields bs).andThen fun headers bs =>
  if status < 100 || headers.any (maxName < ·.1.length) then .malformed else .done ⟨old, status, headers⟩ bs

/-- a head; one that is longer than the limit is refused, although there are ways to deliver it that let it pass -/
def read (bs : List UInt8) : Reading Head :=
  match readWhole bs with
  | .done head rest => if bs.length ≤ rest.length + maxLength then .done head rest else .malformed
  | .short => if bs.length < maxLength then .short else .malformed
  | .malformed => .malformed

/-- a status after which the answer proper is yet to come -/
def isInterim (status : Nat) : Bool := 100 ≤ status && status ≤ 199 && status != 101

/-- the head of the answer proper, after so many interim ones at most -/
def finalWithin : Nat → List UInt8 → Reading Head
  | 0, _ => .short
  | most + 1, bs =>
    (read bs).andThen fun head bs => if isInterim head.status then finalWithin most bs else .done head bs

/-- the head of the answer proper; as every head has an octet, there are no more of them than octets -/
def final (bs : List UInt8) : Reading Head := finalWithin bs.length bs

theorem final_of_read {bs rest : List UInt8} {head : Head} (hb : bs ≠ []) (h : read bs = .done head rest)
    (hs : isInterim head.status = false) : final bs = .done head rest := by
  cases bs with
  | nil => exact absurd rfl hb
  | cons b bs => simp [final, finalWithin, h, hs]

end Head

end CredentialFailover.Http
