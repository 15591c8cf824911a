/-
Texts in quotation marks, as diagnostics show them.

`quoted s` is on one line whatever `s` holds: a quotation mark and a backslash are preceded by a backslash, tab, line feed,
carriage return and NUL have short escapes, and every other character that is not shown as itself is written as its code
point in hexadecimal between braces.
-/
import CredentialFailover.Text.Shown
import CredentialFailover.Text.Ascii

namespace CredentialFailover.Text

/-- a character as its code point in hexadecimal, between braces -/
def codePoint (c : Char) : List Char := ['\\', 'u', '\x7b'] ++ Ascii.hexText c.toNat ++ ['\x7d']

/-- a character inside a quoted text -/
def escaped (c : Char) : List Char :=
  if c == '"' then ['\\', '"']
  else if c == '\\' then ['\\', '\\']
  else if c == '\t' then ['\\', 't']
  else if c == '\n' then ['\\', 'n']
  else if c == '\r' then ['\\', 'r']
  else if c == '\x00' then ['\\', '0']
  else if isShown c then [c]
  else codePoint c

/-- a text in quotation marks -/
def quoted (s : String) : String := String.ofList ('"' :: s.toList.flatMap escaped ++ ['"'])

end CredentialFailover.Text
