/-
Authorities: who is addressed, and as whom.

A user name and a password may stand in front of the last `@`, a port after the last colon outside brackets. A host that is
looked up cannot be missing; any other may be, unless there are credentials or a port.
-/
import CredentialFailover.Http.Host
import CredentialFailover.Http.Scheme

namespace CredentialFailover.Http

/-- who is addressed, and as whom -/
structure Authority where
  user : List Char
  password : Option (List Char)
  host : Host
  port : Option Nat
  deriving DecidableEq

namespace Authority

/-- the credentials of an authority, in front of its host -/
def credentialText (a : Authority) : List Char :=
  match a.password with
  | some p => a.user ++ ':' :: p ++ ['@']
  | none => if a.user.isEmpty then [] else a.user ++ ['@']

/-- host and port -/
def hostText (a : Authority) : List Char :=
  a.host.text ++ match a.port with
    | some port => ':' :: Nat.toDigits 10 port
    | none => []

/-- an authority as a text -/
def text (a : Authority) : List Char := a.credentialText ++ a.hostText

/-- an authority without its credentials -/
def withoutCredentials (a : Authority) : Authority := { a with user := [], password := none }

/-- the authority of an address that addresses no host -/
def nowhere : Authority := ⟨[], none, .name [], none⟩

/-- an authority with the credentials in front of the `@` -/
def ofUserinfo (cs : List Char) (host : Host) (port : Option Nat) : Authority :=
  let user := cs.takeWhile (· ≠ ':')
  let password := (cs.dropWhile (· ≠ ':')).drop 1
  ⟨Percent.encode Percent.inUserinfo user,
    if password.isEmpty then none else some (Percent.encode Percent.inUserinfo password), host, port⟩

/-- the port that digits write; one that is used anyway is none -/
def port? (scheme : Scheme) (ds : List Char) : Option (Option Nat) :=
  if ds.isEmpty then some none
  else match Host.number? 10 ds with
    | some n => if 65535 < n then none else some (if scheme.defaultPort = some n then none else some n)
    | none => none

/-- a text cut before the colon of its port, which is outside brackets -/
def cutAtPort (inBrackets : Bool) : List Char → List Char × List Char
  | [] => ([], [])
  | c :: cs =>
    if c = ':' && !inBrackets then ([], c :: cs)
    else
      let r := cutAtPort (if c = '[' then true else if c = ']' then false else inBrackets) cs
      (c :: r.1, r.2)

/-- a host with what may not be missing beside it -/
def host? (scheme : Scheme) (cs : List Char) (hasOther : Bool) : Option Host :=
  if scheme.isSpecial then Host.lookedUp? cs
  else (Host.verbatim? cs).filter fun h => h ≠ .name [] || !hasOther

/-- the authority written by a text, and what follows it, which is nothing or begins with a backslash -/
def parse? (scheme : Scheme) (cs : List Char) : Option (Authority × List Char) := do
  let hostPart := (cs.reverse.takeWhile (· ≠ '@')).reverse
  let userinfo := ((cs.reverse.dropWhile (· ≠ '@')).drop 1).reverse
  let cut := cutAtPort false hostPart
  let host ← host? scheme cut.1 (!cut.2.isEmpty || (userinfo ≠ [] && userinfo ≠ [':']))
  let port ← port? scheme ((cut.2.drop 1).takeWhile (· ≠ '\\'))
  some (ofUserinfo userinfo host port, cut.2.dropWhile (· ≠ '\\'))

end Authority

end CredentialFailover.Http
