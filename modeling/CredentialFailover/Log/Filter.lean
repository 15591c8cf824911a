/-
Which events a log shows.

A filter is a list of directives, given as a text with commas between them. A directive sets a threshold for the events
whose target begins with a given text, and that have all of given fields; without either it is meant for all events. A
directive that names a span, or the value of a field, is meant for spans, which this program does not open; it is
accepted and shows nothing; the value of a field is a number or a pattern. Of the directives meant for an event the most
specific one decides: the one with the longer target, then the one with more fields; of equals the one given last.
-/
import CredentialFailover.Log.Event
import CredentialFailover.Pattern.Group
import CredentialFailover.Settings.Environment
import CredentialFailover.Text.Alphanumeric
import CredentialFailover.Text.Blank
import CredentialFailover.Text.Pieces

namespace CredentialFailover

/-- how severe a level is -/
def Level.rank : Level → Nat
  | .trace => 0
  | .debug => 1
  | .info => 2
  | .warn => 3
  | .error => 4

namespace Log

/-- the least severe level shown; none shows nothing -/
abbrev Threshold := Option Level

/-- an event of a level passes a threshold -/
def passes (t : Threshold) (l : Level) : Bool :=
  match t with
  | none => false
  | some least => least.rank ≤ l.rank

/-- what a filter says about some events -/
structure Directive where
  target : Option String
  fields : List String
  /-- meant for spans -/
  spans : Bool
  threshold : Threshold
  deriving DecidableEq

/-- the thresholds by number, from nothing to everything -/
def byNumber : Nat → Option Threshold
  | 0 => some none
  | 1 => some (some .error)
  | 2 => some (some .warn)
  | 3 => some (some .info)
  | 4 => some (some .debug)
  | 5 => some (some .trace)
  | _ => none

/-- a threshold written as a number -/
def numbered? (s : String) : Option Threshold :=
  let digits := match s.toList with
    | '+' :: ds => ds
    | ds => ds
  if !digits.isEmpty && digits.all Char.isDigit then
    byNumber (digits.foldl (fun n c => n * 10 + (c.toNat - '0'.toNat)) 0)
  else none

/-- a threshold written as a name, in any case -/
def named? (s : String) : Option Threshold :=
  let name := Ascii.lower s
  if name = "error" then some (some .error)
  else if name = "warn" then some (some .warn)
  else if name = "info" then some (some .info)
  else if name = "debug" then some (some .debug)
  else if name = "trace" then some (some .trace)
  else if name = "off" then some none
  else none

/-- a threshold -/
def threshold? (s : String) : Option Threshold := (numbered? s).or (named? s)

/-- where the reading of a directive stands, with the place at which the current part began -/
inductive Reading where
  | start
  | name (start : Nat)
  | span (start : Nat)
  | field (start : Nat)
  | afterField
  | afterSpan
  | level (start : Nat)

/-- what has been read of a directive -/
structure Parts where
  target : Option String
  named : Bool
  fields : List String

/-- a character that a directive may begin with -/
def isNameStart (c : Char) : Bool := c == '-' || c == ':' || c == '_' || Text.isAlphanumeric c

/-- a number with a sign in front: digits, which may have a point and a power of ten, or a name -/
def isSignedNumber : List Char → Bool
  | '+' :: cs =>
    let whole := cs.takeWhile Char.isDigit
    let (places, rest) := match cs.drop whole.length with
      | '.' :: rest => (rest.takeWhile Char.isDigit, rest.dropWhile Char.isDigit)
      | rest => ([], rest)
    let power := match rest with
      | [] => true
      | c :: rest =>
        let digits := match rest with
          | '+' :: ds => ds
          | '-' :: ds => ds
          | ds => ds
        c.toLower == 'e' && !digits.isEmpty && digits.all Char.isDigit
    (!(whole.isEmpty && places.isEmpty) && power) ||
      ["inf", "infinity", "nan"].contains (String.ofList (cs.map Char.toLower))
  | _ => false

/-- the value of a field: a number or a pattern. All numbers but those with a sign in front are patterns -/
def isValue (cs : List Char) : Bool := isSignedNumber cs || Pattern.isPattern cs

/-- a field: a name, and perhaps a value, which ends where another sign of equality follows -/
def isField (cs : List Char) : Bool :=
  match cs.dropWhile (· != '=') with
  | [] => true
  | _ :: rest => isValue (rest.takeWhile (· != '='))

/-- a text without so many octets at its front, where no character is cut apart -/
def dropOctets? : Nat → List Char → Option (List Char)
  | 0, cs => some cs
  | _ + 1, [] => none
  | n + 1, c :: cs => if c.utf8Size ≤ n + 1 then dropOctets? (n + 1 - c.utf8Size) cs else none

/-- the part of a text between two places, which count octets -/
def slice? (cs : List Char) (start stop : Nat) : Option String :=
  (dropOctets? start cs).bind fun front =>
    (dropOctets? stop cs).map fun back => String.ofList (front.take (front.length - back.length))

/-- one character of a directive, at a place of the text -/
def readStep (cs : List Char) (at_ : Nat) (r : Reading) (p : Parts) (c : Char) : Option (Reading × Parts) :=
  match r with
  | .start =>
    if c == '[' then some (.span (at_ + 1), p)
    else if isNameStart c then some (.name at_, p)
    else none
  | .name start =>
    if c == '=' then (slice? cs start at_).map fun s => (.level (at_ + 1), { p with target := some s })
    else if c == '[' then (slice? cs start at_).map fun s => (.span (at_ + 1), { p with target := some s })
    else some (.name start, p)
  | .span start =>
    if c == ']' then (slice? cs start at_).map fun _ => (.afterSpan, { p with named := true })
    else if c == '\x7b' then (slice? cs start at_).map fun s => (.field (at_ + 1), { p with named := s ≠ "" })
    else some (.span start, p)
  | .field start =>
    if c == '\x7d' then
      (slice? cs start at_).bind fun s =>
        if s ≠ "" && isField s.toList then some (.afterField, { p with fields := p.fields ++ [s] }) else none
    else some (.field start, p)
  | .afterField => if c == ']' then some (.afterSpan, p) else none
  | .afterSpan => if c == '=' then some (.level (at_ + 1), p) else none
  | .level start => some (.level start, p)

/-- all characters of a directive -/
def readAll (cs : List Char) : Nat → Reading → Parts → List Char → Option (Reading × Parts)
  | _, r, p, [] => some (r, p)
  | at_, r, p, c :: rest =>
    match readStep cs at_ r p c with
    | none => none
    | some (r, p) => readAll cs (at_ + c.utf8Size) r p rest

/-- the directive of parts and a threshold -/
def Parts.directive (p : Parts) (t : Threshold) : Directive :=
  ⟨p.target, p.fields, p.named || p.fields.any fun f => f.toList.contains '=', t⟩

/-- a text from a place to its end -/
def sliceFrom? (cs : List Char) (start : Nat) : Option String := (dropOctets? start cs).map String.ofList

/-- the end of a directive: a name alone is a threshold, or a target of which everything is shown -/
def finishDirective (cs : List Char) : Reading × Parts → Option Directive
  | (.name start, p) =>
    (sliceFrom? cs start).map fun s =>
      match threshold? s with
      | some t => { p with target := none }.directive t
      | none => { p with target := some s }.directive (some .trace)
  | (.level start, p) =>
    (sliceFrom? cs start).bind fun s =>
      if s = "" then some (p.directive (some .trace)) else (threshold? s).map p.directive
  | (.afterSpan, p) => some (p.directive (some .trace))
  | _ => none

/-- a directive; blanks around it are passed over, but the places of its parts are counted without those before it -/
def directive? (cs : List Char) : Option Directive :=
  (readAll cs 0 .start ⟨none, false, []⟩ (Text.trim Text.isBlank cs)).bind (finishDirective cs)

/-- a filter: directives in the order in which they were given -/
abbrev Filter := List Directive

namespace Filter

/-- a filter that shows nothing -/
def off : Filter := [⟨none, [], false, none⟩]

/-- a filter that shows what is not of interest to developers alone -/
def standard : Filter := [⟨none, [], false, some .info⟩]

/-- a filter in writing; one without directives shows nothing -/
def parse? (s : String) : Option Filter :=
  (((Text.pieces (· == ',') s.toList).filter (!·.isEmpty)).mapM directive?).map fun ds => if ds.isEmpty then off else ds

/-- a directive is meant for an event -/
def applies (d : Directive) (e : Event) : Bool :=
  !d.spans &&
    (match d.target with
      | none => true
      | some t => t.toList.isPrefixOf e.source.target.toList) &&
    d.fields.all fun f => (Keyed.get? f e.fields).isSome

/-- how specific a directive is: the length of its target, if it has one, then the number of its fields, then their order -/
def isAtLeastAsSpecific (a b : Directive) : Bool :=
  let length (d : Directive) : Nat := match d.target with
    | none => 0
    | some t => t.utf8ByteSize + 1
  if length a ≠ length b then length b < length a
  else if a.fields.length ≠ b.fields.length then b.fields.length < a.fields.length
  else !(a.fields < b.fields)

/-- the directive that decides on an event -/
def deciding? (f : Filter) (e : Event) : Option Directive :=
  (f.filter (applies · e)).foldl (fun best d =>
    match best with
    | none => some d
    | some b => if isAtLeastAsSpecific d b then some d else some b) none

/-- an event is shown -/
def shows (f : Filter) (e : Event) : Bool :=
  match f.deciding? e with
  | none => false
  | some d => passes d.threshold e.level

/-- the filter that the environment asks for: the first of two variables that holds one, or the standard filter -/
def ofEnvironment (env : Environment) : Filter :=
  match (env.text? "LOG_LEVEL").bind parse? with
  | some f => f
  | none => ((env.text? "RUST_LOG").bind parse?).getD standard

end Filter

end Log

end CredentialFailover
