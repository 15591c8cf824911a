/-
Schemes of addresses.

The special schemes have hosts that are looked up and, but for files, a port that is used unless another is given.
-/
namespace CredentialFailover.Http

/-- kinds of schemes by how their addresses are read -/
inductive Scheme where
  /-- one with an authority, and the port that it uses unless another is given -/
  | special (name : String) (port : Nat)
  | file
  | plain (name : String)
  deriving DecidableEq

namespace Scheme

/-- the name of a scheme -/
def name : Scheme → String
  | special n _ => n
  | file => "file"
  | plain n => n

/-- plain HTTP -/
def http : Scheme := special "http" 80

/-- HTTP over an encrypted connection -/
def https : Scheme := special "https" 443

/-- the scheme of a name in lower case -/
def ofName (n : String) : Scheme :=
  if n = "http" then http
  else if n = "https" then https
  else if n = "ws" then special "ws" 80
  else if n = "wss" then special "wss" 443
  else if n = "ftp" then special "ftp" 21
  else if n = "file" then file
  else plain n

/-- whether a backslash counts as a slash -/
def isSpecial : Scheme → Bool
  | special .. => true
  | file => true
  | plain _ => false

/-- the port used unless another is given -/
def defaultPort : Scheme → Option Nat
  | special _ port => some port
  | _ => none

/-- a character that separates segments -/
def isSlash (s : Scheme) (c : Char) : Bool := c == '/' || (s.isSpecial && c == '\\')

end Scheme

end CredentialFailover.Http
