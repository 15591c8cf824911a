/-
A credential as ten headers.

`headers` lists the ten names with their values in the order of the fields; `apply` puts them into a collection of header
fields, one after the other, and stops at the first value that cannot be sent; `render` prints them as a JSON object.
-/
import CredentialFailover.Credential.Basic
import CredentialFailover.Http.Header
import CredentialFailover.Json.Printer

namespace CredentialFailover.Credential

/-- the value of a field as a header -/
def header (c : Credential) : Field → String
  | .machineId => c.machineId.expose
  | .oneTimePassword => c.oneTimePassword.expose
  | .localUserId => c.localUserId
  | .routing => toString c.routing
  | .deviceId => c.deviceId
  | .serialNumber => c.serialNumber
  | .clientInfo => c.clientInfo
  | .clientTime => c.clientTime.text
  | .locale => c.locale
  | .timeZone => c.timeZone

/-- the ten names with their values, in the order of the fields -/
def headers (c : Credential) : List (String × String) := Field.all.map fun f => (f.key, c.header f)

/-- header fields with the given ones put in place of those of the same names, up to the first that cannot be sent -/
def applyFields (c : Credential) : List Field → Http.Headers → Http.Headers × Except Fault Unit
  | [], hs => (hs, .ok ())
  | f :: fs, hs =>
    match Http.headerValue? (c.header f) with
    | some value => applyFields c fs (hs.set f.key value)
    | none => (hs, .error (.invalidField f.key ("not a valid header value: " ++ Http.badValueReason)))

/-- header fields with the ten put in place of those of the same names, up to the first that cannot be sent -/
def apply (c : Credential) (hs : Http.Headers) : Http.Headers × Except Fault Unit := c.applyFields Field.all hs

/-- the ten headers as a document -/
def document (c : Credential) : Json.Value :=
  .ofMembers (c.headers.map fun h => (h.1, .text h.2))

/-- the ten headers as a printed JSON object -/
def render (c : Credential) : String := c.document.pretty

end CredentialFailover.Credential
