/-
The environment of the program.

A variable holds octets. One that is unset, or whose octets are no text, has no text; a text of nothing but blanks counts
as absent where a setting is asked for.
-/
import CredentialFailover.Endpoint.Candidates
import CredentialFailover.Text.Blank
import CredentialFailover.Text.Utf8

namespace CredentialFailover

/-- the variables of the program, with their octets -/
abbrev Environment := String → Option (List UInt8)

namespace Environment

/-- an environment in which nothing is set -/
def empty : Environment := fun _ => none

/-- the text of a variable -/
def text? (env : Environment) (name : String) : Option String := (env name).bind Utf8.decode?

/-- the text of a variable, unless it is blank -/
def setting? (env : Environment) (name : String) : Option String :=
  (env.text? name).filter fun s => !(Text.trim Text.isEdge s.toList).isEmpty

/-- the variable of the delimited list -/
def serversName : String := "ALTSERVER_ANISETTE_SERVERS"

/-- the variable of the single address -/
def serverName : String := "ALTSERVER_ANISETTE_SERVER"

/-- the variable of the settings file -/
def pathName : String := "CONFIG_PATH"

/-- the overrides that the environment sets -/
def overrides (env : Environment) : Overrides := ⟨env.setting? serversName, env.setting? serverName⟩

end Environment

end CredentialFailover
