/-
The command line.

The settings file is read from disk and the environment from the system; no network is at hand, so that every candidate that
can be asked refuses the connection. The credential goes to the standard output; the log, as a JSON object a line, and a
report of what failed go to the standard error. Of a file that is no configuration it is said that it is none, and not where
or why. A run that is cut off ends with the code of an abort.
-/
import CredentialFailover.Http.Playback
import CredentialFailover.Program

namespace CredentialFailover

/-- the variables that the program looks at -/
def Environment.names : List String :=
  [Environment.serversName, Environment.serverName, Environment.pathName, "LOG_LEVEL", "RUST_LOG"]

/-- what is found at a path -/
def SettingsFile.read (path : String) : IO SettingsFile := do
  try
    let content ← IO.FS.readBinFile path
    return .file content.toList
  catch
    | .noFileOrDirectory .. => return .missing .absent
    | .inappropriateType _ code _ => return if code = 20 then .missing .behindFile else .directory
    | .invalidArgument _ code _ => return .missing (if code = 36 then .nameTooLong else .absent)
    | _ => return if path.isEmpty then .missing .absent else .directory

/-- an event as a line of the log -/
def Event.line (e : Event) : String :=
  let fields := Json.Value.ofMembers e.fields
  (Json.Value.ofMembers
    [("level", .text e.level.name), ("target", .text e.source.target), ("fields", fields)]).compact

end CredentialFailover

open CredentialFailover

def main (args : List String) : IO UInt32 := do
  let held ← Environment.names.filterMapM fun name => do
    return (← IO.getEnv name).map fun value => (name, Utf8.bytes value)
  let env : Environment := fun name => held.lookup name
  let p := Program.settingsPath (Program.givenPath? args) env
  let file ← SettingsFile.read p.path
  let host := Program.Host.ready (fun c => c.get Http.unreachable) fun _ => "the file is not a valid configuration"
  let r := Program.run host (args.map Utf8.bytes) env (fun _ => file) ()
  for e in r.shown (.ofEnvironment env) do
    IO.eprintln e.line
  IO.print r.output
  IO.eprint (r.complaint host.diagnose)
  return (r.exitCode?.getD 134).toUInt32
