/-
What can go wrong in an acquisition.

A fault is a cause with its particulars; `Fault.message` is its wording and `Fault.kind` the stage it belongs to. The
failure of one candidate keeps the endpoint, the kind and the wording of its fault, so that the aggregate of a whole walk
is data of its own. The aggregate is worded as a headline and one line per candidate.
-/
import CredentialFailover.Endpoint.Basic
import CredentialFailover.Text.Quoted

namespace CredentialFailover

/-- the stages a fault can belong to -/
inductive Fault.Kind where
  | transport
  | httpStatus
  | parse
  | allEndpointsFailed
  | noEndpointsConfigured
  deriving DecidableEq

/-- the label of a kind in logs and counters -/
def Fault.Kind.label : Fault.Kind → String
  | .transport => "transport"
  | .httpStatus => "http_status"
  | .parse => "parse"
  | .allEndpointsFailed => "all_endpoints_failed"
  | .noEndpointsConfigured => "no_endpoints_configured"

/-- the failure of one candidate -/
structure EndpointFailure where
  endpoint : Endpoint
  kind : Fault.Kind
  message : String
  deriving DecidableEq

/-- what can go wrong -/
inductive Fault where
  /-- the request was not answered, or the answer not read in full -/
  | transport (reason : String)
  /-- the answer has a status that is no success -/
  | httpStatus (status : Nat) (contentType : Option String) (snippet : String)
  /-- the body is no document of the expected form -/
  | parse (text : String)
  | missingField (field : String)
  | invalidField (field : String) (reason : String)
  | malformedTimestamp (raw : String)
  /-- every candidate failed -/
  | allEndpointsFailed (failures : List EndpointFailure)
  | noEndpointsConfigured
  deriving DecidableEq

/-- a candidate's failure in words -/
def EndpointFailure.describe (f : EndpointFailure) : String :=
  "anisette endpoint failed [" ++ f.endpoint.text ++ "]: " ++ f.message

namespace Fault

/-- the stage a fault belongs to -/
def kind : Fault → Kind
  | transport _ => .transport
  | httpStatus .. => .httpStatus
  | parse _ => .parse
  | missingField _ => .parse
  | invalidField .. => .parse
  | malformedTimestamp _ => .parse
  | allEndpointsFailed _ => .allEndpointsFailed
  | noEndpointsConfigured => .noEndpointsConfigured

/-- the answer arrived, but what it holds cannot be used -/
def isParseFault (f : Fault) : Bool := f.kind == .parse

/-- a status that is no success, in words; a part that is absent or empty is left out -/
def describeStatus (status : Nat) (contentType : Option String) (snippet : String) : String :=
  "anisette server HTTP " ++ toString status ++
    (match contentType with | some ct => " (" ++ ct ++ ")" | none => "") ++
    (if snippet = "" then "" else ": " ++ snippet)

/-- the lines of the candidates, each after a line feed -/
def describeFailures : List EndpointFailure → String
  | [] => ""
  | f :: fs => "\n- " ++ f.describe ++ describeFailures fs

/-- a fault in words -/
def message : Fault → String
  | transport reason => "HTTP request failed: " ++ reason
  | httpStatus status contentType snippet => describeStatus status contentType snippet
  | parse text => text
  | missingField field => "anisette response is missing field " ++ field
  | invalidField field reason => "anisette field " ++ field ++ " is invalid: " ++ reason
  | malformedTimestamp raw => "malformed X-Apple-I-Client-Time value " ++ Text.quoted raw
  | allEndpointsFailed failures => "all anisette endpoints failed" ++ describeFailures failures
  | noEndpointsConfigured => "no anisette endpoints configured"

/-- the failure of a candidate with this fault -/
def failureOf (f : Fault) (endpoint : Endpoint) : EndpointFailure := ⟨endpoint, f.kind, f.message⟩

end Fault

end CredentialFailover
