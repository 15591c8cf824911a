/-
Endpoints: the addresses of providers, and delimited lists of them.

An endpoint made from a text is that text without the blanks at its ends. A delimited list is cut at commas, semicolons and
spaces; the pieces become endpoints in their order, those without text and those already present being left out.

Main fact: `nodup_parseList` (a parsed list names no endpoint twice).
-/
import CredentialFailover.Text.Blank
import CredentialFailover.Text.Pieces

namespace CredentialFailover

/-- the address of a provider -/
structure Endpoint where
  text : String
  deriving DecidableEq

namespace Endpoint

/-- the endpoint of a text: the text without the blanks at its ends -/
def ofChars (cs : List Char) : Endpoint := ⟨String.ofList (Text.trim Text.isEdge cs)⟩

/-- the endpoint of a text: the text without the blanks at its ends -/
def ofText (s : String) : Endpoint := ofChars s.toList

/-- an endpoint that names nothing -/
def isEmpty (e : Endpoint) : Bool := e.text == ""

/-- the characters between the endpoints of a list -/
def isDelimiter (c : Char) : Bool := c == ',' || c == ';' || c == ' '

/-- a list with an endpoint added, unless it is there already or names nothing -/
def addNew (es : List Endpoint) (e : Endpoint) : List Endpoint :=
  if e.isEmpty || es.contains e then es else es ++ [e]

/-- the endpoints of a delimited list, each once, in the order of their first occurrences -/
def parseList (raw : String) : List Endpoint :=
  (Text.pieces isDelimiter raw.toList).foldl (fun es p => addNew es (ofChars p)) []

theorem nodup_addNew {es : List Endpoint} (e : Endpoint) (h : es.Nodup) : (addNew es e).Nodup := by
  unfold addNew
  split
  · exact h
  · rename_i hc
    simp only [Bool.or_eq_true, not_or, List.contains_iff_mem] at hc
    exact List.nodup_append.2 ⟨h, by simp, by rintro a ha b hb rfl; exact hc.2 (by simp_all)⟩

theorem nodup_foldl_addNew (ps : List (List Char)) {es : List Endpoint} (h : es.Nodup) :
    (ps.foldl (fun es p => addNew es (ofChars p)) es).Nodup := by
  induction ps generalizing es with
  | nil => exact h
  | cons p ps ih => exact ih (nodup_addNew _ h)

theorem nodup_parseList (raw : String) : (parseList raw).Nodup := nodup_foldl_addNew _ List.nodup_nil

end Endpoint

end CredentialFailover
