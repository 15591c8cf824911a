/-
Where the body of an answer ends.

Some statuses have no body. Otherwise the header fields say how the octets after the head are to be read: in chunks; up to a
declared length; or until the connection is closed.
-/
import CredentialFailover.Http.Chunks
import CredentialFailover.Http.Head
import CredentialFailover.Text.Blank
import CredentialFailover.Text.Pieces

namespace CredentialFailover.Http

/-- how the octets after a head are read -/
inductive Framing where
  | empty
  | length (n : Nat)
  | chunks
  | untilClosed
  deriving DecidableEq

/-- a value of printable ASCII characters and tabs as a text -/
def shownValue? (bs : List UInt8) : Option String :=
  if bs.all fun b => b == Ascii.tab || (0x20 ≤ b && b ≤ 0x7E) then some (String.ofList (bs.map fun b => Char.ofNat b.toNat))
  else none

namespace Framing

/-- the greatest length that can be declared -/
def maxLength : Nat := 18446744073709551613

/-- a declared length in decimal -/
def declared? (cs : List Char) : Option Nat :=
  let ds := Text.trim Text.isBlank cs
  if ds.isEmpty || !ds.all Char.isDigit then none
  else some (ds.foldl (fun acc d => 10 * acc + (d.toNat - '0'.toNat)) 0)

/-- the parts of values between commas, if all values are texts -/
def parts? (values : List (List UInt8)) : Option (List (List Char)) :=
  (values.mapM shownValue?).map fun ss => ss.flatMap fun s => Text.pieces (· == ',') s.toList

/-- the length declared by all of some fields alike, each of which may repeat it between commas -/
def agreed? (values : List (List UInt8)) : Option Nat :=
  match (parts? values).bind (·.mapM declared?) with
  | some (n :: ns) => if ns.all (· = n) && n ≤ maxLength then some n else none
  | _ => none

/-- whether the last coding named by some fields is the one in chunks -/
def endsInChunks (values : List (List UInt8)) : Bool :=
  match values.getLast? with
  | none => false
  | some v =>
    match (parts? [v]).bind List.getLast? with
    | none => false
    | some coding => (Text.trim Text.isBlank coding).map Char.toLower = "chunked".toList

/-- statuses without a body -/
def isBodiless (status : Nat) : Bool := status = 101 || status = 204 || status = 304

/-- the framing that a head announces, if it announces one that can be read -/
def ofHead? (h : Head) : Option Framing :=
  let codings := h.headers.values "transfer-encoding"
  let lengths := h.headers.values "content-length"
  if isBodiless h.status then some .empty
  else if !codings.isEmpty then if h.old then none else some (if endsInChunks codings then .chunks else .untilClosed)
  else if lengths.isEmpty then some .untilClosed
  else (agreed? lengths).map .length

/-- what comes of reading the body of an answer -/
def read (staysOpen : Bool) (bs : List UInt8) : Framing → Body
  | empty => .full []
  | length n => .ofLength staysOpen n bs
  | chunks => Chunks.read staysOpen bs
  | untilClosed => .untilClosed staysOpen bs

end Framing

end CredentialFailover.Http
