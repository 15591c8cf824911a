/-
Snippets: what a diagnostic quotes of a body.

A body is read as text, ill-formed parts becoming U+FFFD. Its first 240 characters are quoted on one line, line breaks and
tabs becoming spaces, and three dots follow if there are more.
-/
import CredentialFailover.Text.Utf8

namespace CredentialFailover.Snippet

/-- how many characters of a body are quoted -/
def limit : Nat := 240

/-- a character on one line -/
def onOneLine (c : Char) : Char := if c == '\r' || c == '\n' || c == '\t' then ' ' else c

/-- the characters quoted of a text -/
def chars (cs : List Char) : List Char :=
  (cs.take limit).map onOneLine ++ (if limit < cs.length then ['.', '.', '.'] else [])

/-- what a diagnostic quotes of a body -/
def ofBody (body : List UInt8) : String := String.ofList (chars (Utf8.decodeLossy body))

end CredentialFailover.Snippet
