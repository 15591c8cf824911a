/-
Texts as TOML writes them.

A text stands between quotation marks or apostrophes, one for a text on one line, three for a text that may hold line
breaks. Between quotation marks a backslash escapes; between apostrophes every character stands for itself. In a text of
several lines a line break right after the opening is left out, a backslash at the end of a line takes away the break and
all blanks after it, and up to two marks may stand right before the closing.

The inside is scanned one character at a time.
-/
import CredentialFailover.Text.Ascii

namespace CredentialFailover.Toml

/-- how a text is written: its mark, and whether it may hold line breaks -/
structure Quoting where
  mark : Char
  several : Bool
  deriving DecidableEq

/-- a text with escapes -/
def Quoting.escapes (q : Quoting) : Bool := q.mark == '"'

/-- a character that no text and no comment may hold -/
def isControl (c : Char) : Bool := (c.toNat < 0x20 && c != '\t') || c.toNat == 0x7F

/-- a blank inside a line -/
def isBlank (c : Char) : Bool := c == ' ' || c == '\t'

/-- where a scan stands: between characters, after a carriage return that must be followed by a line feed, after a
backslash, among the digits of an escape, or in the blanks after a backslash at the end of a line -/
inductive Scan where
  | resting
  | returning
  | escaped
  | digits (left : Nat) (value : Nat)
  | gap (broken : Bool)
  | gapReturning
  deriving DecidableEq

/-- a code point that is a character -/
def scalar? (n : Nat) : Option Char := if n.isValidChar then some (Char.ofNat n) else none

/-- the character of a short escape -/
def shortEscape? (c : Char) : Option Char :=
  if c == '"' then some '"'
  else if c == '\\' then some '\\'
  else if c == 'b' then some '\x08'
  else if c == 't' then some '\t'
  else if c == 'n' then some '\n'
  else if c == 'f' then some '\x0C'
  else if c == 'r' then some '\r'
  else if c == 'e' then some '\x1B'
  else none

/-- the number of digits after the letter of a numeric escape -/
def escapeDigits? (c : Char) : Option Nat :=
  if c == 'x' then some 2 else if c == 'u' then some 4 else if c == 'U' then some 8 else none

/-- a character between others -/
def plainStep (q : Quoting) (c : Char) : Option (List Char × Scan) :=
  if c == '\\' && q.escapes then some ([], .escaped)
  else if c == '\n' && q.several then some ([c], .resting)
  else if c == '\r' && q.several then some ([c], .returning)
  else if isControl c then none
  else some ([c], .resting)

/-- a character after a backslash -/
def escapeStep (q : Quoting) (c : Char) : Option (List Char × Scan) :=
  match shortEscape? c, escapeDigits? c with
  | some d, _ => some ([d], .resting)
  | none, some n => some ([], .digits n 0)
  | none, none =>
    if q.several && c == '\n' then some ([], .gap true)
    else if q.several && c == '\r' then some ([], .gapReturning)
    else if q.several && isBlank c then some ([], .gap false)
    else none

/-- one character that does not close the text: the characters it gives, and where the scan stands after it -/
def scanStep (q : Quoting) : Scan → Char → Option (List Char × Scan)
  | .resting, c => plainStep q c
  | .returning, c => if c == '\n' then some ([c], .resting) else none
  | .escaped, c => escapeStep q c
  | .digits left value, c =>
    match Ascii.hexValue? c with
    | none => none
    | some d =>
      if left ≤ 1 then (scalar? (value * 16 + d)).map fun c => ([c], .resting)
      else some ([], .digits (left - 1) (value * 16 + d))
  | .gap broken, c =>
    if isBlank c then some ([], .gap broken)
    else if c == '\n' then some ([], .gap true)
    else if c == '\r' then some ([], .gapReturning)
    else if broken then plainStep q c
    else none
  | .gapReturning, c => if c == '\n' then some ([], .gap true) else none

/-- a place at which a text may be closed -/
def Scan.mayClose : Scan → Bool
  | .resting => true
  | .gap broken => broken
  | _ => false

/-- the closing of a text, with the marks right before it, and the rest -/
def closing? (q : Quoting) : List Char → Option (List Char × List Char)
  | [] => none
  | c :: cs =>
    if c ≠ q.mark then none
    else if !q.several then some ([], cs)
    else
      let marks := (cs.takeWhile (· == q.mark)).length
      if marks < 2 then none
      else
        let before := if marks < 4 then marks - 2 else 2
        some (List.replicate before q.mark, cs.drop (before + 2))

/-- the characters of a text up to its closing, and the rest after that -/
def scan (q : Quoting) : Scan → List Char → Option (List Char × List Char)
  | _, [] => none
  | st, c :: cs =>
    match (if st.mayClose then closing? q (c :: cs) else none) with
    | some r => some r
    | none =>
      match scanStep q st c with
      | none => none
      | some (out, st) => (scan q st cs).map fun r => (out ++ r.1, r.2)

/-- a text of several lines from after its opening: a line break right there is left out -/
def dropBreak : List Char → List Char
  | '\n' :: cs => cs
  | '\r' :: '\n' :: cs => cs
  | cs => cs

/-- what an opening mark and the characters after it begin -/
def opening (mark : Char) (cs : List Char) : Quoting × List Char :=
  match cs with
  | a :: b :: rest => if a = mark ∧ b = mark then (⟨mark, true⟩, dropBreak rest) else (⟨mark, false⟩, cs)
  | _ => (⟨mark, false⟩, cs)

/-- a text from after its first mark -/
def readText (mark : Char) (cs : List Char) : Option (String × List Char) :=
  let (q, cs) := opening mark cs
  (scan q .resting cs).map fun r => (String.ofList r.1, r.2)

/-- a text on one line, from after its mark -/
def readLine (mark : Char) (cs : List Char) : Option (String × List Char) :=
  (scan ⟨mark, false⟩ .resting cs).map fun r => (String.ofList r.1, r.2)

end CredentialFailover.Toml
