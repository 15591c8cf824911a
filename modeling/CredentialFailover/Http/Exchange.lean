/-
Requests, and what a network delivers for them.

A request has a method, an address, header fields and a body. A network takes one request after another, from a state of
its own, and for each one either has no connection, or delivers octets on one and then closes it or keeps it open. Answers
are delivered as such octets: a line with the status, header fields, an empty line, and what follows.

Main fact: `received_append` (header fields are received one by one).
-/
import CredentialFailover.Http.Head
import CredentialFailover.Http.Url

namespace CredentialFailover.Http

/-- one request -/
structure Request where
  method : String
  url : Url
  headers : Headers
  body : List UInt8
  deriving DecidableEq

/-- an answer as it is sent -/
structure Answer where
  status : Nat
  /-- the words behind the status -/
  reason : String
  headers : List (String × List UInt8)
  /-- the octets after the head -/
  octets : List UInt8

/-- the octets of an answer -/
def Answer.wire (a : Answer) : List UInt8 :=
  Head.version ++ Utf8.bytes (" " ++ toString a.status ++ " " ++ a.reason) ++ Fields.lineEnd ++ Fields.write a.headers ++
    a.octets

/-- what a network delivers for one request -/
inductive Delivery where
  /-- there is no connection -/
  | refused
  /-- octets arrive, and then the connection stays open or is closed -/
  | octets (bs : List UInt8) (staysOpen : Bool)
  deriving DecidableEq

/-- a network takes a request from a state of its own -/
abbrev Network (σ : Type) := Request → σ → Delivery × σ

/-- header fields as they are received: values without the blanks around them -/
def Headers.received (hs : Headers) : Headers := hs.map fun h => (h.1, trimValue h.2)

theorem Headers.received_append (as bs : Headers) : Headers.received (as ++ bs) = as.received ++ bs.received :=
  List.map_append

/-- the first line of a request -/
def Request.line (r : Request) : String :=
  String.ofList (r.method.toList ++ ' ' :: r.url.path.text ++ (match r.url.query with | some q => '?' :: q | none => []) ++
    " HTTP/1.1".toList)

/-- the value of the field that names the host of a request -/
def Url.hostField (u : Url) : List UInt8 :=
  match u.authority with
  | some a => Utf8.encode a.hostText
  | none => []

end CredentialFailover.Http
