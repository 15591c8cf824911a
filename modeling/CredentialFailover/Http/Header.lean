/-
Header fields of requests and answers.

A collection of fields keeps every value in the order of its arrival, under a name in lower case; names are compared
without regard to case. `set` leaves one value under a name. A value may hold the octets that can be sent: tab, and every
octet from the space on but DEL.

There is no bound to the number of names. A map of header fields that is held in memory has one, at 24576 names; what happens
beyond it is outside of this.
-/
import CredentialFailover.Text.Ascii
import CredentialFailover.Text.Utf8

namespace CredentialFailover.Http

/-- header fields: names in lower case, each with a value -/
abbrev Headers := List (String × List UInt8)

/-- an octet that a field value may hold -/
def isValueOctet (b : UInt8) : Bool := b == Ascii.tab || (Ascii.space ≤ b && b != Ascii.delete)

/-- the octets of a text as a field value, if all of them may stand in one -/
def headerValue? (s : String) : Option (List UInt8) :=
  if (Utf8.bytes s).all isValueOctet then some (Utf8.bytes s) else none

/-- the reason given for a text that is no field value -/
def badValueReason : String := "failed to parse header value"

/-- a blank inside a header: space or tab -/
def isHeaderBlank (b : UInt8) : Bool := b == Ascii.space || b == Ascii.tab

/-- a field value as it is read, without the blanks around it -/
def trimValue (bs : List UInt8) : List UInt8 :=
  ((bs.dropWhile isHeaderBlank).reverse.dropWhile isHeaderBlank).reverse

namespace Headers

/-- the values under a name -/
def values (hs : Headers) (name : String) : List (List UInt8) :=
  (hs.filter (·.1 == Ascii.lower name)).map (·.2)

/-- the first value under a name -/
def first? (hs : Headers) (name : String) : Option (List UInt8) := (hs.values name).head?

/-- the fields with one more value under a name -/
def append (hs : Headers) (name : String) (value : List UInt8) : Headers := hs ++ [(Ascii.lower name, value)]

/-- the fields without a name -/
def erase (hs : Headers) (name : String) : Headers := hs.filter (·.1 != Ascii.lower name)

/-- the fields with one value under a name, in place of those it had -/
def set (hs : Headers) (name : String) (value : List UInt8) : Headers := (hs.erase name).append name value

end Headers

end CredentialFailover.Http
