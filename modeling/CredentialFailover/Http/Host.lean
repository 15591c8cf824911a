/-
Hosts of addresses: names and numbers.

A host in brackets is an IPv6 address: eight groups of hexadecimal digits, one run of zeros may be left out, and the last
two groups may be written as an IPv4 address. Any other host is first read without its percent encoding, as a domain name
in its ASCII form. If its last label is a number, the whole is an IPv4 address of one to four parts,
each decimal, octal (`0…`) or hexadecimal (`0x…`), of which the last one fills all remaining octets. What remains is a name.

Written, an IPv4 address has four decimal parts, and an IPv6 address leaves out its longest run of at least two zero
groups.
-/
import CredentialFailover.Domain.Name
import CredentialFailover.Http.Percent

namespace CredentialFailover.Http

/-- who is addressed -/
inductive Host where
  | name (chars : List Char)
  | ipv4 (address : Nat)
  | ipv6 (groups : List Nat)
  deriving DecidableEq

namespace Host

/-- characters that no host may hold -/
def isForbidden (c : Char) : Bool :=
  ['\x00', '\t', '\n', '\r', ' ', '#', '/', ':', '<', '>', '?', '@', '[', '\\', ']', '^', '|'].contains c

/-- characters that no name may hold -/
def isForbiddenInName (c : Char) : Bool := isForbidden c || c.toNat < 0x20 || c == '%' || c.toNat == 0x7F

/-- digits of a base as a number; no digits are none -/
def number? (base : Nat) (cs : List Char) : Option Nat :=
  cs.foldl (fun acc c => do
    let n ← acc
    let d ← Ascii.hexValue? c
    if d < base then some (base * n + d) else none) (some 0)

/-- one part of an IPv4 address -/
def part? : List Char → Option Nat
  | [] => none
  | '0' :: 'x' :: cs => number? 16 cs
  | '0' :: 'X' :: cs => number? 16 cs
  | '0' :: c :: cs => number? 8 (c :: cs)
  | cs => number? 10 cs

/-- the labels of a name, without an empty one at its end -/
def labels (cs : List Char) : List (List Char) :=
  let ls := Text.pieces (· == '.') cs
  if ls.getLast? = some [] then ls.dropLast else ls

/-- a last label that makes a host a number -/
def endsInNumber (cs : List Char) : Bool :=
  match (labels cs).getLast? with
  | none => false
  | some l => (!l.isEmpty && l.all Char.isDigit) || (part? l).isSome

/-- an IPv4 address: leading parts of one octet each, and one that fills the rest -/
def ipv4? (cs : List Char) : Option Nat := do
  let parts ← (labels cs).mapM part?
  let last ← parts.getLast?
  let leading := parts.dropLast
  if 3 < leading.length || leading.any (255 < ·) || (1 <<< (8 * (4 - leading.length))) ≤ last then none
  else some (leading.foldl (fun acc p => 256 * acc + p) 0 <<< (8 * (4 - leading.length)) + last)

/-- an octet in decimal, without leading zeros -/
def octet? (cs : List Char) : Option Nat :=
  if cs.isEmpty || !cs.all Char.isDigit || (cs.head? = some '0' && 1 < cs.length) then none
  else (number? 10 cs).filter (· ≤ 255)

/-- a group of one to four hexadecimal digits -/
def group? (cs : List Char) : Option Nat := if cs.isEmpty || 4 < cs.length then none else number? 16 cs

/-- the last two groups, written as an IPv4 address -/
def dotted? (cs : List Char) : Option (List Nat) :=
  match (Text.pieces (· == '.') cs).mapM octet? with
  | some [a, b, c, d] => some [256 * a + b, 256 * c + d]
  | _ => none

/-- groups between colons, of which the last one may be two in the form of an IPv4 address if the address ends there -/
def groups? (atEnd : Bool) : List (List Char) → Option (List Nat)
  | [] => some []
  | [g] => if atEnd && g.contains '.' then dotted? g else (group? g).map ([·])
  | g :: gs => do
    let n ← group? g
    let ns ← groups? atEnd gs
    some (n :: ns)

/-- the groups of one side of a left-out run -/
def side? (atEnd : Bool) (cs : List Char) : Option (List Nat) :=
  if cs.isEmpty then some [] else groups? atEnd (Text.pieces (· == ':') cs)

/-- a text cut at the first two colons in a row -/
def cutAtRun : List Char → Option (List Char × List Char)
  | ':' :: ':' :: cs => some ([], cs)
  | c :: cs => (cutAtRun cs).map fun r => (c :: r.1, r.2)
  | [] => none

/-- the groups of an IPv6 address -/
def ipv6? (cs : List Char) : Option (List Nat) :=
  match cutAtRun cs with
  | none => (groups? true (Text.pieces (· == ':') cs)).filter (·.length = 8)
  | some (left, right) => do
    let l ← side? false left
    let r ← side? true right
    if 7 < l.length + r.length then none else some (l ++ List.replicate (8 - l.length - r.length) 0 ++ r)

/-- the host of an address whose scheme has hosts that are looked up -/
def lookedUp? (cs : List Char) : Option Host :=
  match cs with
  | '[' :: rest => if rest.getLast? = some ']' then (ipv6? rest.dropLast).map .ipv6 else none
  | _ => do
    let text ← Utf8.decode? (Percent.decode cs)
    let name ← Domain.ascii? text.toList
    if name.isEmpty || name.any isForbiddenInName then none
    else if endsInNumber name then (ipv4? name).map .ipv4
    else some (.name name)

/-- the host of any other address -/
def verbatim? (cs : List Char) : Option Host :=
  match cs with
  | '[' :: rest => if rest.getLast? = some ']' then (ipv6? rest.dropLast).map .ipv6 else none
  | _ => if cs.any isForbidden then none else some (.name (Percent.encode Percent.isHidden cs))

/-- where the longest run of zeros starts, and its length; of equally long ones the first -/
def longestRun (groups : List Nat) : Nat × Nat :=
  (List.range groups.length).foldl (fun best i =>
    let n := ((groups.drop i).takeWhile (· == 0)).length
    if best.2 < n then (i, n) else best) (0, 0)

/-- groups between colons -/
def groupsText (groups : List Nat) : List Char := [':'].intercalate (groups.map Ascii.hexText)

/-- an IPv6 address as a text -/
def ipv6Text (groups : List Nat) : List Char :=
  let run := longestRun groups
  if run.2 < 2 then groupsText groups
  else groupsText (groups.take run.1) ++ [':', ':'] ++ groupsText (groups.drop (run.1 + run.2))

/-- an IPv4 address as a text -/
def ipv4Text (address : Nat) : List Char :=
  ['.'].intercalate ([24, 16, 8, 0].map fun s => Nat.toDigits 10 (address >>> s % 256))

/-- a host as a text -/
def text : Host → List Char
  | name cs => cs
  | ipv4 address => ipv4Text address
  | ipv6 groups => '[' :: ipv6Text groups ++ [']']

end Host

end CredentialFailover.Http
