/-
Where an answer leads.

A reference is read as an address seen from the one that was asked: what it lacks, from the front on, it takes from there.
Where it leads to is used only if it is a link: an address whose authority names a host in characters that may stand in one,
or an address without an authority that could be taken for a host with a port.
-/
import CredentialFailover.Http.Url

namespace CredentialFailover.Http

namespace Url

/-- an address at a host and path known to be asked, with what follows the path -/
def sameHost (base : Url) (path : Path) (cs : List Char) : Url :=
  ending base.scheme base.authority path (cs.dropWhile (!endsPath ·))

/-- the address that a text without scheme is, seen from another one -/
def relative? (base : Url) (cs : List Char) : Option Url :=
  match cs with
  | [] => some base.withoutFragment
  | '#' :: _ => some { base with fragment := fragmentOf cs }
  | '?' :: _ => some (sameHost base base.path cs)
  | c :: _ =>
    let path := cs.takeWhile (!endsPath ·)
    if !base.scheme.isSlash c then some (sameHost base (base.path.goOn base.scheme path) cs)
    else
      match cs with
      | '/' :: '/' :: rest => withAuthority? base.scheme rest
      | _ =>
        if (cs.drop 1).head?.any base.scheme.isSlash then
          withAuthority? base.scheme (cs.dropWhile base.scheme.isSlash)
        else some (sameHost base (Path.ofText base.scheme path) cs)

/-- the address that a text is, seen from another one; naming the special scheme of that one alone changes nothing -/
def join? (base : Url) (s : String) : Option Url :=
  match cutScheme? (relevant s) with
  | none => relative? base (relevant s)
  | some (scheme, cs) =>
    if scheme = base.scheme ∧ scheme.isSpecial ∧ (cs.takeWhile scheme.isSlash).length < 2 then relative? base cs
    else afterScheme? scheme cs

end Url

namespace Link

/-- a character that may stand in an authority, and means nothing there -/
def isAuthorityChar (c : Char) : Bool :=
  c.isAlphanum ||
    ['!', '$', '&', '\'', '(', ')', '*', '+', ',', '-', '.', ';', '=', '_', '~'].contains c

/-- what has been seen of an authority: colons that could introduce a port, brackets, a percent sign outside them, and
whether nothing has come after an `@` -/
structure Seen where
  colons : Nat
  opened : Bool
  closed : Bool
  percent : Bool
  bare : Bool

/-- one more character of an authority -/
def Seen.next (s : Seen) (c : Char) : Option Seen :=
  let s := { s with bare := false }
  if c == ':' then if 8 ≤ s.colons then none else some { s with colons := s.colons + 1 }
  else if c == '[' then if s.percent || s.opened then none else some { s with opened := true }
  else if c == ']' then
    if !s.opened || s.closed then none else some { s with closed := true, colons := 0, percent := false }
  else if c == '@' then some { s with colons := 0, percent := false, bare := true }
  else if c == '%' then some { s with percent := true }
  else if isAuthorityChar c then some s
  else none

/-- a text that may be an authority -/
def isAuthority (cs : List Char) : Bool :=
  match cs.foldlM Seen.next ⟨0, false, false, false, false⟩ with
  | none => false
  | some s => s.opened == s.closed && s.colons ≤ 1 && !s.bare && !s.percent

/-- the longest address that is asked or followed, in octets -/
def longest : Nat := 65534

/-- the longest name of a scheme other than those of HTTP -/
def longestScheme : Nat := 64

/-- an address that is followed -/
def isLink (u : Url) : Bool :=
  u.text.utf8ByteSize ≤ longest &&
    match u.authority with
    | some a => a.text ≠ [] && isAuthority a.text && (u.isHttp || u.scheme.name.length ≤ longestScheme)
    | none => isAuthority u.chars

end Link

/-- a link without its fragment, and with a path if it has an authority -/
def Url.whole (u : Url) : Url :=
  { u with
    fragment := none
    path := if u.authority.isSome && u.path = .segments [] then .segments [[]] else u.path }

/-- where a reference leads from an address, if anywhere -/
def Url.lead? (base : Url) (s : String) : Option Url := ((base.join? s).filter Link.isLink).map Url.whole

end CredentialFailover.Http
