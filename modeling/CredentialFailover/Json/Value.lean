/-
JSON documents.

A number is an integer or a binary64 value kept by its bits. The members of an object are kept in strictly increasing
order of their keys, so two objects with the same members are equal as data.
-/
import CredentialFailover.Keyed

namespace CredentialFailover.Json

/-- a JSON number as it is held: an integer, or a binary64 value by its bits -/
inductive Number where
  | integer (n : Int)
  | binary64 (bits : UInt64)
  deriving DecidableEq

/-- a JSON document -/
inductive Value where
  | null
  | boolean (b : Bool)
  | number (n : Number)
  | text (s : String)
  | list (items : List Value)
  | object (members : List (String × Value))

/-- the kinds of JSON values -/
inductive Kind where
  | null
  | boolean
  | number
  | text
  | list
  | object
  deriving DecidableEq

/-- the name by which diagnostics call a kind -/
def Kind.name : Kind → String
  | .null => "null"
  | .boolean => "boolean"
  | .number => "number"
  | .text => "string"
  | .list => "array"
  | .object => "object"

namespace Value

/-- the kind of a value -/
def kind : Value → Kind
  | null => .null
  | boolean _ => .boolean
  | number _ => .number
  | text _ => .text
  | list _ => .list
  | object _ => .object

/-- an integer as a document -/
def integer (n : Int) : Value := number (.integer n)

/-- the members of an object -/
def members? : Value → Option (List (String × Value))
  | object ms => some ms
  | _ => none

/-- the text of a text value -/
def text? : Value → Option String
  | text s => some s
  | _ => none

end Value

/-- a document from members in any order -/
def Value.ofMembers (ms : List (String × Value)) : Value := .object (Keyed.ofList ms)

end CredentialFailover.Json
