/-
What is in force at a place of a pattern.

A pattern is a regular expression. Letters in round brackets, after a question mark, set what is in force from there to the
end of the group: whether case matters, whether characters or octets of ASCII are meant, whether blanks and comments are
passed over. The others that may be set have no bearing on what can be written.
-/
import CredentialFailover.Text.Blank

namespace CredentialFailover.Pattern

open CredentialFailover.Text

/-- what is in force -/
structure Mode where
  /-- small and capital letters are the same -/
  caseless : Bool
  /-- classes are of characters, and not of octets -/
  wide : Bool
  /-- blanks and comments are passed over -/
  spaced : Bool
  deriving DecidableEq

namespace Mode

/-- what is in force at first -/
def plain : Mode := ⟨false, true, false⟩

/-- letters that stand for what may be set -/
def letters : List Char := ['i', 'm', 's', 'U', 'u', 'R', 'x']

/-- settings in writing: letters, each once, of which those after a sign are taken back -/
def areSettings (cs : List Char) : Bool :=
  (cs.all fun c => c == '-' || letters.contains c) && decide cs.Nodup && cs.getLast? != some '-'

/-- what one letter sets, or what was in force before -/
def setting (cs : List Char) (letter : Char) (before : Bool) : Bool :=
  if (cs.takeWhile (· != '-')).contains letter then true
  else if cs.contains letter then false
  else before

/-- what is in force after settings -/
def set (m : Mode) (cs : List Char) : Mode :=
  ⟨setting cs 'i' m.caseless, setting cs 'u' m.wide, setting cs 'x' m.spaced⟩

/-- a text without the blanks and comments at its front, which may begin within a comment -/
def pass : Bool → List Char → List Char
  | _, [] => []
  | true, c :: cs => pass (c != '\n') cs
  | false, c :: cs => if isBlank c then pass false cs else if c = '#' then pass true cs else c :: cs

/-- a text from what is read next -/
def next (m : Mode) (cs : List Char) : List Char := if m.spaced then pass false cs else cs

/-- the character that is looked at beyond a sign. Of a comment only the mark is passed over; where nothing is left it is
the one that follows immediately -/
def beyond? (m : Mode) (cs : List Char) : Option Char :=
  if m.spaced then
    let rest := match cs.dropWhile isBlank with
      | '#' :: rest => rest.dropWhile isBlank
      | rest => rest
    rest.head?.or cs.head?
  else cs.head?

end Mode

end CredentialFailover.Pattern
