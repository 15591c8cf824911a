/-
Addresses of resources: reading them from a text, and writing them.

Controls and spaces at the ends of a text, and tabs and line breaks anywhere, are ignored. A text without a scheme is no
address of its own. The special schemes have an authority whatever number of slashes follows, a path that is never empty,
and take a backslash for a slash; an address of any other scheme has an authority only after two slashes, and a path that
does not start with a slash is kept as it is. Parts are percent-encoded with the class of their place.
-/
import CredentialFailover.Http.Authority
import CredentialFailover.Http.Path
import CredentialFailover.Text.Blank

namespace CredentialFailover.Http

/-- the address of a resource -/
structure Url where
  scheme : Scheme
  authority : Option Authority
  path : Path
  query : Option (List Char)
  fragment : Option (List Char)
  deriving DecidableEq

namespace Url

/-- the characters of a text that count -/
def relevant (s : String) : List Char :=
  (Text.trim (·.toNat ≤ 0x20) s.toList).filter fun c => c ≠ '\t' && c ≠ '\n' && c ≠ '\r'

/-- a character of the name of a scheme -/
def isSchemeChar (c : Char) : Bool := c.isAlphanum || c == '+' || c == '-' || c == '.'

/-- the scheme in front of the first colon, and what follows it -/
def cutScheme? (cs : List Char) : Option (Scheme × List Char) :=
  match cs.takeWhile isSchemeChar, cs.dropWhile isSchemeChar with
  | c :: name, ':' :: rest =>
    if c.isAlpha then some (.ofName (Ascii.lower (String.ofList (c :: name))), rest) else none
  | _, _ => none

/-- a character that ends an authority -/
def endsAuthority (scheme : Scheme) (c : Char) : Bool := scheme.isSlash c || c == '?' || c == '#'

/-- a character that ends a path -/
def endsPath (c : Char) : Bool := c == '?' || c == '#'

/-- the query that a text begins with -/
def queryOf (scheme : Scheme) (cs : List Char) : Option (List Char) :=
  match cs with
  | '?' :: q =>
    some (Percent.encode (if scheme.isSpecial then Percent.inSpecialQuery else Percent.inQuery) (q.takeWhile (· ≠ '#')))
  | _ => none

/-- the fragment that a text ends with -/
def fragmentOf (cs : List Char) : Option (List Char) :=
  match cs.dropWhile (· ≠ '#') with
  | _ :: f => some (Percent.encode Percent.inFragment f)
  | [] => none

/-- an address with a path that has been read, and what follows it -/
def ending (scheme : Scheme) (authority : Option Authority) (path : Path) (rest : List Char) : Url :=
  ⟨scheme, authority, path, queryOf scheme rest, fragmentOf rest⟩

/-- an address with an authority -/
def withAuthority? (scheme : Scheme) (cs : List Char) : Option Url := do
  let front := cs.takeWhile (!endsAuthority scheme ·)
  let rest := cs.drop front.length
  if front = ['@'] ∧ rest ≠ [] then none
  let (authority, left) ← Authority.parse? scheme front
  let cs := left ++ rest.takeWhile (!endsPath ·)
  let path := if cs.isEmpty && !scheme.isSpecial then .segments [] else Path.ofText scheme cs
  some (ending scheme authority path (rest.dropWhile (!endsPath ·)))

/-- an address without an authority -/
def withoutAuthority (scheme : Scheme) (cs : List Char) : Url :=
  let front := cs.takeWhile (!endsPath ·)
  let path := if front.head? = some '/' then Path.ofText scheme front else .verbatim (Percent.encode Percent.isHidden front)
  ending scheme none path (cs.dropWhile (!endsPath ·))

/-- the address of a file on a host, which a path that begins with a drive leaves out -/
def fileOn (host : Option Host) (cs : List Char) : Url :=
  let trail := Path.Trail.start.follow true (Path.pieces .file (cs.takeWhile (!endsPath ·)))
  let authority := match host with
    | some h => if trail.drive then Authority.nowhere else { Authority.nowhere with host := h }
    | none => .nowhere
  ending .file (some authority) (Path.ofFile trail) (cs.dropWhile (!endsPath ·))

/-- the address of a file; a host follows two slashes, unless it would be a drive -/
def file? (cs : List Char) : Option Url :=
  match cs.takeWhile Scheme.file.isSlash with
  | [] => some (fileOn none cs)
  | [_] => some (fileOn none (cs.drop 1))
  | _ =>
    let cs := cs.drop 2
    let front := cs.takeWhile (!endsAuthority .file ·)
    let rest := cs.drop front.length
    if Path.isDrive front then some (fileOn none cs)
    else if front.isEmpty then some (fileOn none rest)
    else (Host.lookedUp? front).map fun h =>
      if h = .name "localhost".toList then fileOn none rest else fileOn (some h) (Path.withoutSlash .file rest)

/-- the address written by a text after a scheme -/
def afterScheme? (scheme : Scheme) (cs : List Char) : Option Url :=
  match scheme with
  | .special n port => withAuthority? (.special n port) (cs.dropWhile (Scheme.special n port).isSlash)
  | .file => file? cs
  | .plain n =>
    match cs with
    | '/' :: '/' :: rest => withAuthority? (.plain n) rest
    | _ => some (withoutAuthority (.plain n) cs)

/-- the address written by a text -/
def parse (s : String) : Option Url := (cutScheme? (relevant s)).bind fun r => afterScheme? r.1 r.2

/-- query and fragment as a text -/
def tailText (u : Url) : List Char :=
  (match u.query with | some q => '?' :: q | none => []) ++ (match u.fragment with | some f => '#' :: f | none => [])

/-- what stands between scheme and path; without an authority, a path does not seem to start with one -/
def front (u : Url) : List Char :=
  match u.authority with
  | some a => ['/', '/'] ++ a.text
  | none => if u.path.text.take 2 = ['/', '/'] then ['/', '.'] else []

/-- an address as characters -/
def chars (u : Url) : List Char := u.scheme.name.toList ++ ':' :: u.front ++ u.path.text ++ u.tailText

/-- an address as a text -/
def text (u : Url) : String := String.ofList u.chars

/-- an address that can be asked over HTTP -/
def isHttp (u : Url) : Bool := u.scheme = .http || u.scheme = .https

/-- an address without its credentials -/
def withoutCredentials (u : Url) : Url := { u with authority := u.authority.map Authority.withoutCredentials }

/-- an address without its fragment -/
def withoutFragment (u : Url) : Url := { u with fragment := none }

/-- user name and password in plain, unless both are missing or the name is no text -/
def credentials? (u : Url) : Option (String × Option String) := do
  let a ← u.authority
  let user ← Utf8.decode? (Percent.decode a.user)
  let password := a.password.bind fun p => Utf8.decode? (Percent.decode p)
  if user = "" && password.isNone then none else some (user, password)

end Url

end CredentialFailover.Http
