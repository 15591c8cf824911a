/-
Classes of a pattern: what stands in square brackets.

A class is a union of characters, ranges and classes, or of what two classes have in common, or of what one has and the other
has not. In ASCII a class may be named. Classes can be nested; each counts for the depth of the pattern, and so does each
union of several parts, and each operator. Where octets are meant, a class may not go beyond ASCII.
-/
import CredentialFailover.Pattern.Escape

namespace CredentialFailover.Pattern

/-- how two classes are combined -/
inductive Operator where
  | both
  | less
  | either
  deriving DecidableEq

/-- what is known of a class: how deeply its parts are nested, and whether it goes beyond ASCII -/
structure Extent where
  depth : Nat
  high : Bool
  deriving DecidableEq

/-- the extent of two combined classes -/
def Operator.apply (o : Operator) (a b : Extent) : Extent :=
  ⟨max a.depth b.depth + 1,
    match o with
    | .both => a.high && b.high
    | .less => a.high && !b.high
    | .either => a.high != b.high⟩

/-- the operator that a text begins with, in front of the rest -/
def operator? : List Char → Option (Operator × List Char)
  | '&' :: '&' :: cs => some (.both, cs)
  | '-' :: '-' :: cs => some (.less, cs)
  | '~' :: '~' :: cs => some (.either, cs)
  | _ => none

/-- names of classes in ASCII -/
def classNames : List String :=
  ["alnum", "alpha", "ascii", "blank", "cntrl", "digit", "graph", "lower", "print", "punct", "space", "upper", "word",
    "xdigit"]

/-- a named class, after its first bracket and in front of the rest: whether its complement is meant -/
def namedClass? : List Char → Option (Bool × List Char)
  | ':' :: cs =>
    let (negated, cs) := match cs with
      | '^' :: cs => (true, cs)
      | cs => (false, cs)
    let name := cs.takeWhile (· != ':')
    match cs.drop name.length with
    | ':' :: ']' :: rest => if classNames.contains (String.ofList name) then some (negated, rest) else none
    | _ => none
  | _ => none

/-- a class of which the end is still to come -/
structure Bracket where
  negated : Bool
  /-- no part but dashes has been read -/
  fresh : Bool
  /-- what stands before the last operator, and that operator -/
  before : Option (Extent × Operator)
  /-- parts since then -/
  parts : List Extent

namespace Bracket

/-- a class after its first bracket, in front of its parts -/
def start (m : Mode) (cs : List Char) : Bracket × List Char :=
  match m.next cs with
  | '^' :: cs => (⟨true, true, none, []⟩, cs)
  | cs => (⟨false, true, none, []⟩, cs)

/-- a class with one part more -/
def push (b : Bracket) (e : Extent) : Bracket := { b with fresh := false, parts := e :: b.parts }

/-- a class with one character or range more -/
def pushPlain (b : Bracket) : Bracket := b.push ⟨0, false⟩

/-- the union of all parts -/
def union : List Extent → Extent
  | [] => ⟨0, false⟩
  | [e] => e
  | es => ⟨(es.map Extent.depth).foldl max 0 + 1, es.any Extent.high⟩

/-- what has been read of a class -/
def extent (b : Bracket) : Extent :=
  match b.before with
  | none => union b.parts
  | some (e, o) => o.apply e (union b.parts)

/-- a class after an operator -/
def combine (b : Bracket) (o : Operator) : Bracket :=
  { b with fresh := false, before := some (b.extent, o), parts := [] }

/-- a class at its end -/
def closed? (m : Mode) (b : Bracket) : Option Extent :=
  let high := b.extent.high != b.negated
  if m.wide then some ⟨b.extent.depth + 1, false⟩
  else if high then none
  else some ⟨b.extent.depth + 1, high⟩

end Bracket

/-- a character of a class may be taken as it is -/
def Mode.allowsInClass (m : Mode) (c : Char) : Bool := if m.wide then !m.caseless else c.toNat < 0x80

/-- a character or an escape, in front of the rest -/
def member? (m : Mode) : List Char → Option (Escape × List Char)
  | [] => none
  | '\\' :: cs => escape? m cs
  | c :: cs => some (.char c false, cs)

/-- a member that stands alone -/
def single? (m : Mode) : Escape → Option Unit
  | .char c _ => if m.allowsInClass c then some () else none
  | .kind => some ()
  | .place => none

/-- a range from one member to another -/
def range? (m : Mode) : Escape → Escape → Option Unit
  | .char a _, .char b _ => if m.allowsInClass a && m.allowsInClass b && a ≤ b then some () else none
  | _, _ => none

/-- a member or a range, in front of the rest -/
def memberOrRange? (m : Mode) (cs : List Char) : Option (List Char) :=
  (member? m cs).bind fun (first, rest) =>
    match m.next rest with
    | [] => none
    | '-' :: after =>
      if m.beyond? after = some ']' || m.beyond? after = some '-' then (single? m first).map fun _ => '-' :: after
      else (member? m (m.next after)).bind fun (last, rest) => (range? m first last).map fun _ => rest
    | rest => (single? m first).map fun _ => rest

/-- one part or bracket of open classes, the innermost first; the outermost may end, which leaves its depth -/
def bracketStep (m : Mode) (b : Bracket) (outer : List Bracket) (c : Char) (cs : List Char) :
    Option ((Bracket × List Bracket ⊕ Nat) × List Char) :=
  if b.fresh && (c == '-' || (c == ']' && b.parts.isEmpty)) then
    if m.allowsInClass c then some (.inl ({ b.pushPlain with fresh := c == '-' }, outer), cs) else none
  else if c = '[' then
    match namedClass? cs with
    | some (negated, rest) =>
      if m.wide && m.caseless then none else some (.inl (b.push ⟨0, negated⟩, outer), rest)
    | none =>
      let (inner, rest) := Bracket.start m cs
      some (.inl (inner, b :: outer), rest)
  else if c = ']' then
    (b.closed? m).map fun e =>
      match outer with
      | [] => (.inr e.depth, cs)
      | b :: outer => (.inl (b.push e, outer), cs)
  else
    match operator? (c :: cs) with
    | some (o, rest) => some (.inl (b.combine o, outer), rest)
    | none => (memberOrRange? m (c :: cs)).map fun rest => (.inl (b.pushPlain, outer), rest)

/-- open classes up to the end of the outermost: its depth, in front of the rest. Each step takes a character, which bounds
their number -/
def bracketRest? (m : Mode) : Nat → Bracket → List Bracket → List Char → Option (Nat × List Char)
  | 0, _, _, _ => none
  | steps + 1, b, outer, cs =>
    match m.next cs with
    | [] => none
    | c :: cs =>
      match bracketStep m b outer c cs with
      | none => none
      | some (.inr depth, rest) => some (depth, rest)
      | some (.inl (b, outer), rest) => bracketRest? m steps b outer rest

/-- a class after its first bracket: its depth, in front of the rest -/
def bracket? (m : Mode) (cs : List Char) : Option (Nat × List Char) :=
  let (b, rest) := Bracket.start m cs
  bracketRest? m (rest.length + 1) b [] rest

end CredentialFailover.Pattern
