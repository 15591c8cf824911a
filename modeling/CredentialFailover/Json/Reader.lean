/-
Reading a JSON document.

`Value.read` takes one value, with blanks before it, off the front of a text; the depth is how many levels of lists and
objects may still be opened. A document is one value with nothing but blanks after it. The items of a list and the members
of an object are read by loops over a reader for the values inside, so that reading recurses on the depth alone.

Main facts: `items_cons`, `moreItems_cons`, `members_cons`, `moreMembers_cons` (how the loops go on).
-/
import CredentialFailover.Json.Value
import CredentialFailover.Json.Fault
import CredentialFailover.Json.Number
import CredentialFailover.Json.Text

namespace CredentialFailover.Json

open Ascii

/-- the octets that may stand between tokens -/
def isSpace (b : UInt8) : Bool := b == space || b == tab || b == lineFeed || b == carriageReturn

/-- a text without the blanks at its front -/
def skip (bs : List UInt8) : List UInt8 := bs.dropWhile isSpace

/-- the rest of a word whose first letter has been read -/
def word (value : Value) : List UInt8 → Reader Value
  | [], bs => .ok (value, bs)
  | _ :: _, [] => failBefore .endInValue []
  | w :: ws, b :: bs => if b = w then word value ws bs else failBefore .badWord bs

/-- the items of a list after one of them, up to and with the closing bracket -/
def moreItems (item : Reader Value) : Nat → Reader (List Value)
  | 0, bs => failAt .endInList bs
  | fuel + 1, bs =>
    match skip bs with
    | [] => failAt .endInList []
    | closeBracket :: bs => .ok ([], bs)
    | comma :: bs =>
      match skip bs with
      | [] => failAt .endInValue []
      | closeBracket :: bs => failAt .trailingComma (closeBracket :: bs)
      | bs =>
        match item bs with
        | .error failure => .error failure
        | .ok (v, bs) =>
          match moreItems item fuel bs with
          | .error failure => .error failure
          | .ok (vs, bs) => .ok (v :: vs, bs)
    | bs => failAt .noListSeparator bs

theorem moreItems_close (item : Reader Value) (fuel : Nat) {bs rest : List UInt8} (h : skip bs = closeBracket :: rest) :
    moreItems item (fuel + 1) bs = .ok ([], rest) := by
  rw [moreItems, h]
  rfl

/-- a comma, one more item, and the items after it -/
theorem moreItems_cons {item : Reader Value} {fuel : Nat} {bs bs' more rest rest' : List UInt8} {b : UInt8} {v : Value}
    {vs : List Value} (hcomma : skip bs = comma :: bs') (hskip : skip bs' = b :: more) (hb : b ≠ closeBracket)
    (hitem : item (b :: more) = .ok (v, rest)) (hmore : moreItems item fuel rest = .ok (vs, rest')) :
    moreItems item (fuel + 1) bs = .ok (v :: vs, rest') := by
  rw [moreItems, hcomma]
  change (match skip bs' with
    | [] => failAt .endInValue []
    | closeBracket :: bs => failAt .trailingComma (closeBracket :: bs)
    | bs =>
      match item bs with
      | .error failure => .error failure
      | .ok (v, bs) =>
        match moreItems item fuel bs with
        | .error failure => .error failure
        | .ok (vs, bs) => .ok (v :: vs, bs)) = _
  rw [hskip]
  split
  · rename_i heq
    exact absurd heq (List.cons_ne_nil _ _)
  · rename_i heq
    exact absurd (List.cons.inj heq).1 hb
  · simp only [hitem, hmore]

/-- a list, from after its opening bracket -/
def items (item : Reader Value) : Reader (List Value) := fun bs =>
  match skip bs with
  | [] => failAt .endInList []
  | closeBracket :: bs => .ok ([], bs)
  | bs =>
    match item bs with
    | .error failure => .error failure
    | .ok (v, bs) =>
      match moreItems item (bs.length + 1) bs with
      | .error failure => .error failure
      | .ok (vs, bs) => .ok (v :: vs, bs)

theorem items_close (item : Reader Value) {bs rest : List UInt8} (h : skip bs = closeBracket :: rest) :
    items item bs = .ok ([], rest) := by
  rw [items, h]
  rfl

/-- the first item, and the items after it -/
theorem items_cons {item : Reader Value} {bs more rest rest' : List UInt8} {b : UInt8} {v : Value} {vs : List Value}
    (hskip : skip bs = b :: more) (hb : b ≠ closeBracket) (hitem : item (b :: more) = .ok (v, rest))
    (hmore : moreItems item (rest.length + 1) rest = .ok (vs, rest')) : items item bs = .ok (v :: vs, rest') := by
  rw [items, hskip]
  split
  · rename_i heq
    exact absurd heq (List.cons_ne_nil _ _)
  · rename_i heq
    exact absurd (List.cons.inj heq).1 hb
  · simp only [hitem, hmore]

/-- a member of an object, from after the quotation mark that opens its key -/
def member (item : Reader Value) : Reader (String × Value) := fun bs =>
  match text bs with
  | .error failure => .error failure
  | .ok (key, bs) =>
    match skip bs with
    | [] => failAt .endInObject []
    | colon :: bs =>
      match item bs with
      | .error failure => .error failure
      | .ok (v, bs) => .ok ((key, v), bs)
    | bs => failAt .noColon bs

/-- a key, a colon and a value -/
theorem member_colon {item : Reader Value} {bs bs' bs'' rest : List UInt8} {key : String} {v : Value}
    (hkey : text bs = .ok (key, bs')) (hcolon : skip bs' = colon :: bs'') (hitem : item bs'' = .ok (v, rest)) :
    member item bs = .ok ((key, v), rest) := by
  simp only [member, hkey, hcolon]
  change (match item bs'' with
    | .error failure => .error failure
    | .ok (v, bs) => .ok ((key, v), bs) : Except Failure ((String × Value) × List UInt8)) = _
  simp only [hitem]

/-- the members of an object after one of them, up to and with the closing brace -/
def moreMembers (item : Reader Value) : Nat → Reader (List (String × Value))
  | 0, bs => failAt .endInObject bs
  | fuel + 1, bs =>
    match skip bs with
    | [] => failAt .endInObject []
    | closeBrace :: bs => .ok ([], bs)
    | comma :: bs =>
      match skip bs with
      | [] => failAt .endInValue []
      | closeBrace :: bs => failAt .trailingComma (closeBrace :: bs)
      | quote :: bs =>
        match member item bs with
        | .error failure => .error failure
        | .ok (m, bs) =>
          match moreMembers item fuel bs with
          | .error failure => .error failure
          | .ok (ms, bs) => .ok (m :: ms, bs)
      | bs => failAt .keyNotText bs
    | bs => failAt .noObjectSeparator bs

theorem moreMembers_close (item : Reader Value) (fuel : Nat) {bs rest : List UInt8}
    (h : skip bs = closeBrace :: rest) : moreMembers item (fuel + 1) bs = .ok ([], rest) := by
  rw [moreMembers, h]
  rfl

/-- a comma, one more member, and the members after it -/
theorem moreMembers_cons {item : Reader Value} {fuel : Nat} {bs bs' more rest rest' : List UInt8} {m : String × Value}
    {ms : List (String × Value)} (hcomma : skip bs = comma :: bs') (hskip : skip bs' = quote :: more)
    (hmember : member item more = .ok (m, rest)) (hmore : moreMembers item fuel rest = .ok (ms, rest')) :
    moreMembers item (fuel + 1) bs = .ok (m :: ms, rest') := by
  rw [moreMembers, hcomma]
  change (match skip bs' with
    | [] => failAt .endInValue []
    | closeBrace :: bs => failAt .trailingComma (closeBrace :: bs)
    | quote :: bs =>
      match member item bs with
      | .error failure => .error failure
      | .ok (m, bs) =>
        match moreMembers item fuel bs with
        | .error failure => .error failure
        | .ok (ms, bs) => .ok (m :: ms, bs)
    | bs => failAt .keyNotText bs) = _
  rw [hskip]
  change (match member item more with
    | .error failure => .error failure
    | .ok (m, bs) =>
      match moreMembers item fuel bs with
      | .error failure => .error failure
      | .ok (ms, bs) => .ok (m :: ms, bs) : Except Failure (List (String × Value) × List UInt8)) = _
  simp only [hmember, hmore]

/-- an object, from after its opening brace -/
def members (item : Reader Value) : Reader (List (String × Value)) := fun bs =>
  match skip bs with
  | [] => failAt .endInObject []
  | closeBrace :: bs => .ok ([], bs)
  | quote :: bs =>
    match member item bs with
    | .error failure => .error failure
    | .ok (m, bs) =>
      match moreMembers item (bs.length + 1) bs with
      | .error failure => .error failure
      | .ok (ms, bs) => .ok (m :: ms, bs)
  | bs => failAt .keyNotText bs

theorem members_close (item : Reader Value) {bs rest : List UInt8} (h : skip bs = closeBrace :: rest) :
    members item bs = .ok ([], rest) := by
  rw [members, h]
  rfl

/-- the first member, and the members after it -/
theorem members_cons {item : Reader Value} {bs more rest rest' : List UInt8} {m : String × Value}
    {ms : List (String × Value)} (hskip : skip bs = quote :: more) (hmember : member item more = .ok (m, rest))
    (hmore : moreMembers item (rest.length + 1) rest = .ok (ms, rest')) : members item bs = .ok (m :: ms, rest') := by
  rw [members, hskip]
  change (match member item more with
    | .error failure => .error failure
    | .ok (m, bs) =>
      match moreMembers item (bs.length + 1) bs with
      | .error failure => .error failure
      | .ok (ms, bs) => .ok (m :: ms, bs) : Except Failure (List (String × Value) × List UInt8)) = _
  simp only [hmember, hmore]

/-- a result of reading, as a value -/
def mapValue {α : Type} (f : α → Value) : Except Failure (α × List UInt8) → Except Failure (Value × List UInt8)
  | .error failure => .error failure
  | .ok (a, bs) => .ok (f a, bs)

/-- a value that opens no level, by its first octet -/
def scalar : Reader Value
  | [] => failAt .endInValue []
  | b :: bs =>
    if b == 0x6E then word .null [0x75, 0x6C, 0x6C] bs
    else if b == 0x74 then word (.boolean true) [0x72, 0x75, 0x65] bs
    else if b == 0x66 then word (.boolean false) [0x61, 0x6C, 0x73, 0x65] bs
    else if b == quote then mapValue .text (text bs)
    else if b == minus || isDigit b then mapValue .number (number (b :: bs))
    else failAt .noValue (b :: bs)

/-- one value, with blanks before it; at most `depth` levels may be opened -/
def Value.read : Nat → Reader Value
  | 0, bs =>
    match skip bs with
    | openBracket :: bs => failAt .tooDeep (openBracket :: bs)
    | openBrace :: bs => failAt .tooDeep (openBrace :: bs)
    | bs => scalar bs
  | depth + 1, bs =>
    match skip bs with
    | openBracket :: bs => mapValue .list (items (Value.read depth) bs)
    | openBrace :: bs => mapValue Value.ofMembers (members (Value.read depth) bs)
    | bs => scalar bs

/-- the greatest number of levels of lists and objects -/
def maxDepth : Nat := 127

/-- one document -/
def document (bs : List UInt8) : Except Failure Value :=
  match Value.read maxDepth bs with
  | .error failure => .error failure
  | .ok (v, rest) =>
    match skip rest with
    | [] => .ok v
    | rest => failAt .trailingCharacters rest

end CredentialFailover.Json
