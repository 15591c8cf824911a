/-
Which texts are patterns.

A pattern is a choice of branches, each a sequence of parts: characters, classes, places, repetitions, and groups, which are
patterns in round brackets. What a group sets is in force up to its end. No part is nested too deeply.
-/
import CredentialFailover.Pattern.Bracket
import CredentialFailover.Text.Alphanumeric

namespace CredentialFailover.Pattern

open CredentialFailover.Text

/-- a part of a branch -/
inductive Part where
  /-- it only sets what is in force -/
  | setting
  /-- anything else, so deeply nested -/
  | item (depth : Nat)
  deriving DecidableEq

/-- how deeply a part is nested -/
def Part.depth : Part → Nat
  | .setting => 0
  | .item n => n

/-- what has been read of a pattern -/
structure Choice where
  /-- depths of the branches before the last -/
  branches : List Nat
  /-- parts of the last branch, the last part first -/
  parts : List Part

namespace Choice

/-- nothing has been read -/
def empty : Choice := ⟨[], []⟩

/-- one part more -/
def push (c : Choice) (p : Part) : Choice := { c with parts := p :: c.parts }

/-- the depth of what has as many parts: none for no part, that of the part for one -/
def joint : List Nat → Nat
  | [] => 0
  | [n] => n
  | ns => ns.foldl max 0 + 1

/-- the depth of the last branch -/
def branch (c : Choice) : Nat := joint (c.parts.map Part.depth)

/-- one branch more -/
def split (c : Choice) : Choice := ⟨c.branch :: c.branches, []⟩

/-- the depth of the whole -/
def depth (c : Choice) : Nat := joint (c.branch :: c.branches)

/-- the last part is repeated -/
def repeat? (c : Choice) : Option Choice :=
  match c.parts with
  | .item n :: ps => some { c with parts := .item (n + 1) :: ps }
  | _ => none

end Choice

/-- a pattern of which the end is still to come -/
structure Reading where
  mode : Mode
  choice : Choice
  /-- what is around, the innermost group first, with what was in force there -/
  around : List (Mode × Choice)
  /-- names of groups -/
  names : List (List Char)

namespace Reading

/-- nothing has been read -/
def start : Reading := ⟨.plain, .empty, [], []⟩

/-- one part more -/
def push (r : Reading) (p : Part) : Reading := { r with choice := r.choice.push p }

/-- a group begins, in which something is in force -/
def openGroup (r : Reading) (m : Mode) : Reading := ⟨m, .empty, (r.mode, r.choice) :: r.around, r.names⟩

/-- a group ends -/
def close? (r : Reading) : Option Reading :=
  match r.around with
  | [] => none
  | (m, c) :: around => some ⟨m, c.push (.item (r.choice.depth + 1)), around, r.names⟩

/-- a name of a group -/
def isName : List Char → Bool
  | [] => false
  | c :: cs =>
    (c == '_' || isAlphabetic c) && cs.all fun c => c == '_' || c == '.' || c == '[' || c == ']' || isAlphanumeric c

/-- a group begins, after the start of its name -/
def openNamed? (r : Reading) (cs : List Char) : Option (Reading × List Char) :=
  let name := cs.takeWhile (· != '>')
  match cs.drop name.length with
  | '>' :: rest =>
    if isName name && !r.names.contains name then some ({ r.openGroup r.mode with names := name :: r.names }, rest)
    else none
  | _ => none

/-- settings, for a group or for what follows -/
def set? (r : Reading) (cs : List Char) : Option (Reading × List Char) :=
  let settings := cs.takeWhile fun c => c != ':' && c != ')'
  if Mode.areSettings settings then
    match cs.drop settings.length with
    | ':' :: rest => some (r.openGroup (r.mode.set settings), rest)
    | ')' :: rest =>
      if settings.isEmpty then none else some ({ r.push .setting with mode := r.mode.set settings }, rest)
    | _ => none
  else none

/-- what follows an opening bracket -/
def group? (r : Reading) (cs : List Char) : Option (Reading × List Char) :=
  match r.mode.next cs with
  | '?' :: 'P' :: '<' :: rest => r.openNamed? rest
  | '?' :: '<' :: rest => r.openNamed? rest
  | '?' :: rest => r.set? rest
  | rest => some (r.openGroup r.mode, rest)

/-- one part or sign of a pattern -/
def step (r : Reading) (c : Char) (cs : List Char) : Option (Reading × List Char) :=
  match c with
  | '(' => r.group? cs
  | ')' => r.close?.map (·, cs)
  | '|' => some ({ r with choice := r.choice.split }, cs)
  | '[' => (bracket? r.mode cs).map fun (depth, rest) => (r.push (.item depth), rest)
  | '?' | '*' | '+' =>
    r.choice.repeat?.map fun choice =>
      ({ r with choice }, match cs with
        | '?' :: rest => rest
        | rest => rest)
  | '\x7b' => none
  | '.' => if r.mode.wide then some (r.push (.item 0), cs) else none
  | '^' | '$' => some (r.push (.item 0), cs)
  | '\\' =>
    (escape? r.mode cs).bind fun
      | (.char c octet, rest) => if r.mode.allows c octet then some (r.push (.item 0), rest) else none
      | (_, rest) => some (r.push (.item 0), rest)
  | c => if r.mode.allows c false then some (r.push (.item 0), cs) else none

/-- a pattern to its end. Each step takes a character, which bounds their number -/
def run? : Nat → Reading → List Char → Option Reading
  | 0, _, _ => none
  | steps + 1, r, cs =>
    match r.mode.next cs with
    | [] => some r
    | c :: cs =>
      match r.step c cs with
      | none => none
      | some (r, rest) => run? steps r rest

end Reading

/-- how deeply parts may be nested -/
def deepest : Nat := 250

/-- a text is a pattern -/
def isPattern (cs : List Char) : Bool :=
  match Reading.run? (cs.length + 1) .start cs with
  | none => false
  | some r => r.around.isEmpty && r.choice.depth ≤ deepest

end CredentialFailover.Pattern
