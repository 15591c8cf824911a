/-
The ten fields of a credential document.

`Field.all` is the order in which fields are checked and exported; `Field.key` is the key of a field in a document and its
name as a header.
-/
namespace CredentialFailover

/-- a field of a credential document -/
inductive Field where
  | machineId
  | oneTimePassword
  | localUserId
  | routing
  | deviceId
  | serialNumber
  | clientInfo
  | clientTime
  | locale
  | timeZone
  deriving DecidableEq

namespace Field

/-- the fields in the order in which they are checked and exported -/
def all : List Field :=
  [machineId, oneTimePassword, localUserId, routing, deviceId, serialNumber, clientInfo, clientTime, locale, timeZone]

/-- the key of a field in a document, and its name as a header -/
def key : Field → String
  | machineId => "X-Apple-I-MD-M"
  | oneTimePassword => "X-Apple-I-MD"
  | localUserId => "X-Apple-I-MD-LU"
  | routing => "X-Apple-I-MD-RINFO"
  | deviceId => "X-Mme-Device-Id"
  | serialNumber => "X-Apple-I-SRL-NO"
  | clientInfo => "X-MMe-Client-Info"
  | clientTime => "X-Apple-I-Client-Time"
  | locale => "X-Apple-Locale"
  | timeZone => "X-Apple-I-TimeZone"

/-- the fields whose values no diagnostic shows -/
def isSecret : Field → Bool
  | machineId => true
  | oneTimePassword => true
  | _ => false

theorem mem_all (f : Field) : f ∈ all := by cases f <;> decide

end Field

end CredentialFailover
