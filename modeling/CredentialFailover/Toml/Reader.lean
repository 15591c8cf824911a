/-
Reading a TOML file.

A file is a sequence of lines, each a header or a key with its value, with blanks, comments and empty lines among them.
`statements` reads the lines, `parse` builds their table. Values may hold values, to a depth of eighty, and a key may have
as many parts; the items of a list and the entries of an inline table may be spread over lines, as may the key and the
value of such an entry.
-/
import CredentialFailover.Toml.Scalar
import CredentialFailover.Toml.Text
import CredentialFailover.Toml.Value

namespace CredentialFailover.Toml

/-- a reader takes a value off the front of a text, unless the text is malformed -/
abbrev Reader (α : Type) := List Char → Option (α × List Char)

/-- where a gap between tokens stands: among blanks, inside a comment, or after a carriage return -/
inductive Gap where
  | blank
  | comment
  | returning

/-- a text without the blanks, line breaks and comments at its front -/
def skipGap : Gap → List Char → Option (List Char)
  | .blank, [] => some []
  | .comment, [] => some []
  | .returning, [] => none
  | .blank, c :: cs =>
    if isBlank c || c == '\n' then skipGap .blank cs
    else if c == '\r' then skipGap .returning cs
    else if c == '#' then skipGap .comment cs
    else some (c :: cs)
  | .comment, c :: cs =>
    if c == '\n' then skipGap .blank cs
    else if c == '\r' then skipGap .returning cs
    else if isControl c then none
    else skipGap .comment cs
  | .returning, c :: cs => if c == '\n' then skipGap .blank cs else none

/-- a text without the blanks at its front -/
def skipBlanks (cs : List Char) : List Char := cs.dropWhile isBlank

/-- the end of a line after a header or a value: nothing but a comment may come before it -/
def lineEnd (cs : List Char) : Option (List Char) :=
  match skipBlanks cs with
  | [] => some []
  | '#' :: cs => skipGap .comment cs
  | '\n' :: cs => some cs
  | '\r' :: '\n' :: cs => some cs
  | _ => none

/-- a character of a key without marks -/
def isKeyChar (c : Char) : Bool := c.isAlphanum || c == '_' || c == '-'

/-- one part of a key -/
def keyPart : Reader String
  | '"' :: cs => readLine '"' cs
  | '\'' :: cs => readLine '\'' cs
  | cs =>
    let run := cs.takeWhile isKeyChar
    if run.isEmpty then none else some (String.ofList run, cs.dropWhile isKeyChar)

/-- how deeply values may hold values, and how many parts a key may have -/
def maxDepth : Nat := 80

/-- a key of at most so many parts: those it goes through, and the last one -/
def keyWithin : Nat → Reader (List String × String)
  | 0, _ => none
  | most + 1, cs =>
    match keyPart cs with
    | none => none
    | some (part, cs) =>
      match skipBlanks cs with
      | '.' :: cs => (keyWithin most (skipBlanks cs)).map fun r => ((part :: r.1.1, r.1.2), r.2)
      | cs => some (([], part), cs)

/-- a key: the parts it goes through, and the last one -/
def key : Reader (List String × String) := keyWithin maxDepth

/-- a key with its value, and what may stand around the sign between them -/
def entry (gap : List Char → Option (List Char)) (value : Reader Value) : Reader (List String × String × Value) := fun cs =>
  match key cs with
  | none => none
  | some ((path, last), cs) =>
    match gap cs with
    | some ('=' :: cs) => (gap cs).bind fun cs => (value cs).map fun r => ((path, last, r.1), r.2)
    | _ => none

/-- parts separated by commas, with gaps between all tokens, up to and with the closing character; a comma may stand after
the last part -/
def separated {α : Type} (part : Reader α) (close : Char) : Nat → Reader (List α)
  | 0, _ => none
  | fuel + 1, cs =>
    match skipGap .blank cs with
    | none => none
    | some [] => none
    | some (c :: cs) =>
      if c = close then some ([], cs)
      else
        match part (c :: cs) with
        | none => none
        | some (a, cs) =>
          match skipGap .blank cs with
          | none => none
          | some [] => none
          | some (d :: cs) =>
            if d = close then some ([a], cs)
            else if d = ',' then (separated part close fuel cs).map fun r => (a :: r.1, r.2)
            else none

/-- a value that holds no values -/
def simpleValue : Reader Value
  | '"' :: cs => (readText '"' cs).map fun r => (.text r.1, r.2)
  | '\'' :: cs => (readText '\'' cs).map fun r => (.text r.1, r.2)
  | cs => bare cs

/-- a value; at most `depth` lists and inline tables may be opened -/
def Value.read : Nat → Reader Value
  | 0, cs => simpleValue cs
  | depth + 1, cs =>
    match cs with
    | '[' :: cs => (separated (Value.read depth) ']' (cs.length + 1) cs).map fun r => (.list false r.1, r.2)
    | '\x7b' :: cs =>
      match separated (entry (skipGap .blank) (Value.read depth)) '\x7d' (cs.length + 1) cs with
      | none => none
      | some (entries, cs) => (Table.ofEntries entries []).map fun t => (.table .inline t, cs)
    | cs => simpleValue cs

/-- a key between blanks -/
def spacedKey (cs : List Char) : Option ((List String × String) × List Char) :=
  (key (skipBlanks cs)).map fun r => (r.1, skipBlanks r.2)

/-- what a line says, from its first character -/
def statement : Reader Statement
  | '[' :: '[' :: cs =>
    match spacedKey cs with
    | some ((path, last), ']' :: ']' :: cs) => some (.listHeader path last, cs)
    | _ => none
  | '[' :: cs =>
    match spacedKey cs with
    | some ((path, last), ']' :: cs) => some (.header path last, cs)
    | _ => none
  | cs => (entry (some ∘ skipBlanks) (Value.read maxDepth) cs).map fun r => (.assign r.1.1 r.1.2.1 r.1.2.2, r.2)

/-- what the lines of a text say -/
def statements : Nat → List Char → Option (List Statement)
  | 0, _ => none
  | fuel + 1, cs =>
    match skipGap .blank cs with
    | none => none
    | some [] => some []
    | some cs =>
      match statement cs with
      | none => none
      | some (s, cs) =>
        match lineEnd cs with
        | none => none
        | some cs => (statements fuel cs).map (s :: ·)

/-- a text without the byte order mark that may come first -/
def dropMark : List Char → List Char
  | '\uFEFF' :: cs => cs
  | cs => cs

/-- the table that a file writes -/
def parse (file : String) : Option Table :=
  let cs := dropMark file.toList
  (statements (cs.length + 1) cs).bind Table.ofStatements

end CredentialFailover.Toml
