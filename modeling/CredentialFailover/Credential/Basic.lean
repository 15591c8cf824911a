/-
Credentials, and reading them from a document.

A credential is read all-or-nothing. Every field must be present as a text before any value is interpreted, so the first
field, in the order of `Field.all`, that is absent or of another kind decides the fault; only then the client time is read,
which may be malformed. The routing number accepts any text.

Main facts: `ofDocument_object` (the result for an object), `ofDocument_congr` (it depends on the ten members alone).
-/
import CredentialFailover.Credential.ClientTime
import CredentialFailover.Credential.Field
import CredentialFailover.Credential.RoutingNumber
import CredentialFailover.Credential.Secret
import CredentialFailover.Fault
import CredentialFailover.Json.Value

namespace CredentialFailover

/-- the data of one provider's answer, ready to be attached to requests -/
structure Credential where
  machineId : Secret
  oneTimePassword : Secret
  localUserId : String
  routing : Int
  deviceId : String
  serialNumber : String
  clientInfo : String
  clientTime : ClientTime
  locale : String
  timeZone : String
  deriving DecidableEq

namespace Credential

/-- what is wrong with a field, by the value under its key -/
def fieldFault? (f : Field) : Option Json.Value → Option Fault
  | none => some (.missingField f.key)
  | some (.text _) => none
  | some v => some (.invalidField f.key ("expected string, got " ++ v.kind.name))

/-- the text of a field; meant for documents in which no field is at fault -/
def textOf (ms : List (String × Json.Value)) (f : Field) : String :=
  match Keyed.get? f.key ms with
  | some (.text s) => s
  | _ => ""

/-- the fault of the first field that is absent or no text -/
def firstFault? (ms : List (String × Json.Value)) : Option Fault :=
  Field.all.findSome? fun f => fieldFault? f (Keyed.get? f.key ms)

/-- the credential of ten texts, unless the client time is malformed -/
def ofTexts (text : Field → String) : Except Fault Credential :=
  match ClientTime.parse? (text .clientTime) with
  | none => .error (.malformedTimestamp (text .clientTime))
  | some time => .ok {
      machineId := ⟨text .machineId⟩
      oneTimePassword := ⟨text .oneTimePassword⟩
      localUserId := text .localUserId
      routing := RoutingNumber.leading (text .routing)
      deviceId := text .deviceId
      serialNumber := text .serialNumber
      clientInfo := text .clientInfo
      clientTime := time
      locale := text .locale
      timeZone := text .timeZone }

/-- the credential of the members of an object -/
def ofMembers (ms : List (String × Json.Value)) : Except Fault Credential :=
  match firstFault? ms with
  | some fault => .error fault
  | none => ofTexts (textOf ms)

/-- the credential of a document -/
def ofDocument (d : Json.Value) : Except Fault Credential :=
  match d.members? with
  | none => .error (.parse ("anisette response is not a JSON object: " ++ d.kind.name))
  | some ms => ofMembers ms

theorem ofDocument_object (ms : List (String × Json.Value)) : ofDocument (.object ms) = ofMembers ms := rfl

/-- two objects that agree on the ten keys give the same result -/
theorem ofDocument_congr {ms ms' : List (String × Json.Value)}
    (h : ∀ f : Field, Keyed.get? f.key ms = Keyed.get? f.key ms') :
    ofDocument (.object ms) = ofDocument (.object ms') := by
  have htext : textOf ms = textOf ms' := by funext f; simp [textOf, h]
  have hfault : firstFault? ms = firstFault? ms' := by simp [firstFault?, h]
  simp [ofDocument_object, ofMembers, htext, hfault]

/-- a credential as a diagnostic shows it -/
def describe (c : Credential) : String :=
  "CredentialRecord \x7b machine_id: " ++ c.machineId.shown ++
    ", one_time_password: " ++ c.oneTimePassword.shown ++
    ", local_user_id: " ++ Text.quoted c.localUserId ++
    ", routing_info: " ++ toString c.routing ++
    ", device_unique_id: " ++ Text.quoted c.deviceId ++
    ", device_serial_number: " ++ Text.quoted c.serialNumber ++
    ", device_description: " ++ Text.quoted c.clientInfo ++
    ", client_time: " ++ c.clientTime.text ++
    ", locale: " ++ Text.quoted c.locale ++
    ", time_zone: " ++ Text.quoted c.timeZone ++ " \x7d"

end Credential

end CredentialFailover
