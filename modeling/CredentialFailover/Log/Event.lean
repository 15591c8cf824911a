/-
Log events.

An event says what happened; its level, the part of the program it comes from, its text and its further fields follow from
that. A field is a number, a truth value or a text; the text of the event itself is the field `message`.

Main fact: `fields_obtained_congr` (the event that shows a credential does not depend on its secrets).
-/
import CredentialFailover.Credential.Basic
import CredentialFailover.Endpoint.Basic
import CredentialFailover.Fault
import CredentialFailover.Json.Value

namespace CredentialFailover

/-- how severe an event is, the least severe first -/
inductive Level where
  | trace
  | debug
  | info
  | warn
  | error
  deriving DecidableEq

/-- the name of a level in a log -/
def Level.name : Level → String
  | .trace => "TRACE"
  | .debug => "DEBUG"
  | .info => "INFO"
  | .warn => "WARN"
  | .error => "ERROR"

/-- the parts of the program that log -/
inductive Source where
  | acquisition
  | transport
  | program
  deriving DecidableEq

/-- the name by which a log filter addresses a part -/
def Source.target : Source → String
  | .acquisition => "anisette::fetcher"
  | .transport => "anisette::transport"
  | .program => "anisette_fetch"

/-- what happened -/
inductive Event where
  /-- a candidate is about to be asked -/
  | trying (endpoint : Endpoint)
  /-- a candidate failed -/
  | failed (failure : EndpointFailure)
  /-- a candidate answered well, after so many that failed -/
  | acquired (endpoint : Endpoint) (failedBefore : Nat)
  /-- the credential of that answer -/
  | obtained (credential : Credential)
  /-- all of so many candidates failed -/
  | exhausted (attempted : Nat) (fault : Fault)
  /-- the head of an answer arrived -/
  | received (endpoint : Endpoint) (status : Nat)
  /-- settings are about to be loaded -/
  | loading (path : String) (explicit : Bool)
  /-- the candidates are about to be walked -/
  | acquiring (candidates : Nat) (timeout : Nat) (userAgent : String)

namespace Event

/-- how severe an event is -/
def level : Event → Level
  | trying _ => .info
  | failed _ => .warn
  | acquired .. => .info
  | obtained _ => .debug
  | exhausted .. => .error
  | received .. => .debug
  | loading .. => .info
  | acquiring .. => .info

/-- the part of the program an event comes from -/
def source : Event → Source
  | trying _ => .acquisition
  | failed _ => .acquisition
  | acquired .. => .acquisition
  | obtained _ => .acquisition
  | exhausted .. => .acquisition
  | received .. => .transport
  | loading .. => .program
  | acquiring .. => .program

/-- the text of an event -/
def message : Event → String
  | trying _ => "trying anisette endpoint"
  | failed failure => failure.describe
  | acquired .. => "acquired anisette data"
  | obtained _ => "anisette record"
  | exhausted _ fault => fault.message
  | received .. => "received anisette response"
  | loading .. => "loading configuration"
  | acquiring .. => "acquiring anisette data"

/-- the fields of an event beside its text -/
def details : Event → List (String × Json.Value)
  | trying endpoint => [("endpoint", .text endpoint.text)]
  | failed failure =>
    [("endpoint", .text failure.endpoint.text), ("kind", .text failure.kind.label), ("error", .text failure.message)]
  | acquired endpoint failedBefore => [("endpoint", .text endpoint.text), ("failed_before", .integer failedBefore)]
  | obtained credential => [("record", .text credential.describe)]
  | exhausted attempted _ => [("attempted", .integer attempted)]
  | received endpoint status => [("endpoint", .text endpoint.text), ("status", .integer status)]
  | loading path explicit => [("path", .text path), ("explicit", .boolean explicit)]
  | acquiring candidates timeout userAgent =>
    [("candidates", .integer candidates), ("timeout_secs", .integer timeout), ("user_agent", .text userAgent)]

/-- all fields of an event -/
def fields (e : Event) : List (String × Json.Value) := ("message", .text e.message) :: e.details

theorem fields_obtained_congr (c : Credential) (machineId oneTimePassword : Secret) :
    (obtained { c with machineId, oneTimePassword }).fields = (obtained c).fields := rfl

end Event

end CredentialFailover
