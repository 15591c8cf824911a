/-
Settings, and reading them from the table of a settings file.

The table `anisette` holds four entries, each of which may be left out; it may also be written as a list of the values in
their order. Entries of other names are passed over, whatever they hold, as long as their numbers can be represented.
-/
import CredentialFailover.Endpoint.Candidates
import CredentialFailover.Http.Defaults
import CredentialFailover.Toml.Value

namespace CredentialFailover

/-- what can be set -/
structure Settings where
  servers : Option String
  server : Option String
  /-- how long one request may take, in seconds -/
  timeout : Nat
  userAgent : String
  deriving DecidableEq

namespace Settings

/-- the settings of an absent file -/
def default : Settings := ⟨none, none, Http.defaultTimeout, Http.defaultUserAgent⟩

/-- the overrides that the settings hold -/
def overrides (s : Settings) : Overrides := ⟨s.servers, s.server⟩

/-- the names of the entries, in the order of a list -/
inductive Name where
  | servers
  | server
  | timeout
  | userAgent
  deriving DecidableEq

/-- the key of an entry -/
def Name.key : Name → String
  | .servers => "servers"
  | .server => "server"
  | .timeout => "timeout_secs"
  | .userAgent => "user_agent"

/-- the place of an entry in a list -/
def Name.place : Name → Nat
  | .servers => 0
  | .server => 1
  | .timeout => 2
  | .userAgent => 3

/-- all names -/
def Name.all : List Name := [.servers, .server, .timeout, .userAgent]

/-- the name of the table -/
def tableName : String := "anisette"

/-- the greatest timeout -/
def maxTimeout : Nat := 18446744073709551615

/-- an entry that is a text, or left out -/
def optionalText : Option Toml.Value → Option (Option String)
  | none => some none
  | some (.text s) => some (some s)
  | some _ => none

/-- the entry of the timeout -/
def timeoutOf : Option Toml.Value → Option Nat
  | none => some Http.defaultTimeout
  | some (.integer n) => if 0 ≤ n ∧ n ≤ maxTimeout then some n.toNat else none
  | some _ => none

/-- the entry of the user agent -/
def userAgentOf : Option Toml.Value → Option String
  | none => some Http.defaultUserAgent
  | some (.text s) => some s
  | some _ => none

/-- the settings that four entries make -/
def ofEntries (entry : Name → Option Toml.Value) : Option Settings := do
  let servers ← optionalText (entry .servers)
  let server ← optionalText (entry .server)
  let timeout ← timeoutOf (entry .timeout)
  let userAgent ← userAgentOf (entry .userAgent)
  some ⟨servers, server, timeout, userAgent⟩

/-- the bounds of an integer that is passed over -/
def isRepresentable (n : Int) : Bool :=
  -170141183460469231731687303715884105728 ≤ n && n ≤ 340282366920938463463374607431768211455

/-- a number that rounds to a finite binary64 value: its size is below the midpoint after the greatest one -/
def isFinite (significand : Int) (exponent : Int) : Bool :=
  let size := significand.natAbs
  let point : Int := (Nat.toDigits 10 size).length + exponent
  if size = 0 ∨ point < 0 then true
  else if 400 < point then false
  else
    let bound := (2 * (1 <<< 53) - 1) * (1 <<< 970)
    size * Nat.pow 10 exponent.toNat < bound * Nat.pow 10 (-exponent).toNat

mutual

/-- an entry that can be passed over -/
def canSkip : Toml.Value → Bool
  | .integer n => isRepresentable n
  | .decimal significand exponent => isFinite significand exponent
  | .list _ items => canSkipItems items
  | .table _ entries => canSkipEntries entries
  | _ => true

/-- items that can be passed over -/
def canSkipItems : List Toml.Value → Bool
  | [] => true
  | v :: vs => canSkip v && canSkipItems vs

/-- entries that can be passed over -/
def canSkipEntries : List (String × Toml.Value) → Bool
  | [] => true
  | (_, v) :: es => canSkip v && canSkipEntries es

end

/-- a table without the entries of some names -/
def others (names : List String) (t : Toml.Table) : Toml.Table := t.filter fun e => !names.contains e.1

/-- the settings that the table `anisette` makes -/
def ofValue : Toml.Value → Option Settings
  | .table _ t =>
    if canSkipEntries (others (Name.all.map Name.key) t) then ofEntries fun name => Keyed.get? name.key t else none
  | .list _ items => ofEntries fun name => items[name.place]?
  | .moment => some default
  | _ => none

/-- the settings that a file makes -/
def ofTable (t : Toml.Table) : Option Settings :=
  if canSkipEntries (others [tableName] t) then
    match Keyed.get? tableName t with
    | none => some default
    | some v => ofValue v
  else none

end Settings

end CredentialFailover
