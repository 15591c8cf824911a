/-
Loading settings from a file and the environment.

The file may be missing unless its path was chosen explicitly. What it holds is checked before the environment is looked
at: first the timeout, then the user agent. Overrides that the environment sets stand in for those of the file. A text that
is no configuration is kept as it is; the words for it are those of the reader that refuses it, and are given.
-/
import CredentialFailover.Settings.Basic
import CredentialFailover.Settings.Environment
import CredentialFailover.Settings.FileTree
import CredentialFailover.Toml.Reader

namespace CredentialFailover

/-- why settings cannot be loaded -/
inductive SettingsFault where
  | missing (why : Missing)
  | directory
  | notText
  | malformed (text : String)
  | zeroTimeout
  | blankUserAgent
  deriving DecidableEq

namespace SettingsFault

/-- the kinds of such faults: the settings themselves, the file, the form of its text -/
inductive Kind where
  | settings
  | file
  | form
  deriving DecidableEq

/-- the kind of a fault -/
def kind : SettingsFault → Kind
  | missing _ => .file
  | directory => .file
  | notText => .file
  | malformed _ => .form
  | zeroTimeout => .settings
  | blankUserAgent => .settings

/-- what lies under a fault, if anything does, with words for a text that is no configuration -/
def source? (diagnose : String → String) : SettingsFault → Option String
  | missing .absent => some "No such file or directory (os error 2)"
  | missing .behindFile => some "Not a directory (os error 20)"
  | missing .nameTooLong => some "File name too long (os error 36)"
  | directory => some "Is a directory (os error 21)"
  | notText => some "stream did not contain valid UTF-8"
  | malformed text => some (diagnose text)
  | zeroTimeout => none
  | blankUserAgent => none

/-- a fault in words -/
def message (f : SettingsFault) (diagnose : String → String) : String :=
  match f with
  | zeroTimeout => "Configuration error: timeout_secs must be greater than 0"
  | blankUserAgent => "Configuration error: user_agent must not be empty"
  | malformed text => "TOML parse error: " ++ diagnose text
  | _ => "I/O error reading config: " ++ (f.source? diagnose).getD ""

end SettingsFault

namespace Settings

/-- the settings that a text makes -/
def ofText (text : String) : Except SettingsFault Settings :=
  match (Toml.parse text).bind ofTable with
  | some s => .ok s
  | none => .error (.malformed text)

/-- the settings that a file makes, itself missing only where it may be -/
def ofFile (required : Bool) : SettingsFile → Except SettingsFault Settings
  | .missing why => if required then .error (.missing why) else .ok default
  | .directory => .error .directory
  | .file content =>
    match Utf8.decode? content with
    | none => .error .notText
    | some text => ofText text

/-- the settings, if a request may take time and the user agent is not blank -/
def check (s : Settings) : Except SettingsFault Settings :=
  if s.timeout = 0 then .error .zeroTimeout
  else if (Text.trim Text.isBlank s.userAgent.toList).isEmpty then .error .blankUserAgent
  else .ok s

/-- the settings with other overrides where those are given -/
def override (s : Settings) (o : Overrides) : Settings :=
  { s with servers := o.servers.or s.servers, server := o.server.or s.server }

/-- the settings of a file and an environment -/
def load (required : Bool) (file : SettingsFile) (env : Environment) : Except SettingsFault Settings :=
  match ofFile required file with
  | .error fault => .error fault
  | .ok s =>
    match s.check with
    | .error fault => .error fault
    | .ok s => .ok (s.override env.overrides)

end Settings

end CredentialFailover
