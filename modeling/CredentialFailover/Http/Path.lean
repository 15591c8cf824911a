/-
Paths of addresses.

A path is a list of segments, or kept as it is. Segments `.` and `..` are carried out while a path is read; a segment that
looks like the drive of a file path is never left. The path of a file may begin with a drive, which is written with a colon.
-/
import CredentialFailover.Http.Percent
import CredentialFailover.Http.Scheme
import CredentialFailover.Text.Pieces

namespace CredentialFailover.Http

/-- what is addressed of a host -/
inductive Path where
  | segments (list : List (List Char))
  /-- one that is kept as it is -/
  | verbatim (chars : List Char)
  deriving DecidableEq

namespace Path

/-- a path as a text -/
def text : Path → List Char
  | segments list => list.flatMap ('/' :: ·)
  | verbatim chars => chars

/-- a segment that stays where it is -/
def isHere (s : List Char) : Bool := [".", "%2e"].contains (Ascii.lower (String.ofList s))

/-- a segment that leads one up -/
def isUp (s : List Char) : Bool := ["..", "%2e.", ".%2e", "%2e%2e"].contains (Ascii.lower (String.ofList s))

/-- a letter with a colon or a bar -/
def isDrive : List Char → Bool
  | [c, d] => c.isAlpha && (d == ':' || d == '|')
  | _ => false

/-- a segment that begins with a drive, and ends there or goes on with a backslash -/
def looksLikeDrive (s : List Char) : Bool :=
  isDrive (s.take 2) && ((s.drop 2).isEmpty || (s.drop 2).head? = some '\\')

/-- how far a path has been followed: the segments, the last one first, and whether a drive came first -/
structure Trail where
  back : List (List Char)
  drive : Bool

namespace Trail

/-- the start of a path -/
def start : Trail := ⟨[], false⟩

/-- a trail that leads one up -/
def up (t : Trail) : Trail :=
  match t.back with
  | s :: back => if looksLikeDrive s then t else { t with back }
  | [] => t

/-- a trail with one more segment; the first one of a file may be a drive -/
def add (file : Bool) (t : Trail) (s : List Char) : Trail :=
  if file && t.back.isEmpty && isDrive s then ⟨[s.take 1 ++ [':']], true⟩ else { t with back := s :: t.back }

/-- a trail after more segments; the last one leaves a segment behind in any case -/
def follow (file : Bool) (t : Trail) : List (List Char) → Trail
  | [] => t
  | s :: rest =>
    if isUp s || isHere s then
      let t := if isUp s then t.up else t
      follow file (if rest.isEmpty then { t with back := [] :: t.back } else t) rest
    else follow file (t.add file s) rest

/-- the segments of a trail in their order -/
def segments (t : Trail) : List (List Char) := t.back.reverse

end Trail

/-- the segments of a text, encoded -/
def pieces (scheme : Scheme) (cs : List Char) : List (List Char) :=
  (Text.pieces scheme.isSlash cs).map (Percent.encode Percent.inPath)

/-- a text without the slash at its front, if there is one -/
def withoutSlash (scheme : Scheme) : List Char → List Char
  | [] => []
  | c :: cs => if scheme.isSlash c then cs else c :: cs

/-- a path of segments; the slash in front of the first one may be missing -/
def ofText (scheme : Scheme) (cs : List Char) : Path :=
  .segments (Trail.start.follow false (pieces scheme (withoutSlash scheme cs))).segments

/-- a path that goes on where the last segment of another one was -/
def goOn (scheme : Scheme) (p : Path) (cs : List Char) : Path :=
  match p with
  | segments list => .segments (Trail.follow false ⟨list.reverse.tail, false⟩ (pieces scheme cs)).segments
  | verbatim _ => p

/-- the path of a file, which starts with no empty segment but for its last -/
def ofFile (t : Trail) : Path :=
  let kept := t.segments.dropWhile List.isEmpty
  .segments (if kept.isEmpty then [[]] else kept)

end Path

end CredentialFailover.Http
