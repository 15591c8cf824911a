/-
Looking up a path among files and folders.

A path is followed part by part, from the folder that is current or, if it begins with a slash, from the outermost one. Empty
parts and `.` stay where they are, `..` leads one out, any other part leads into a file or folder of that name. Only a
folder can be left by a part, an empty one at the end of a path included. Parts and paths have greatest lengths.
-/
import CredentialFailover.Keyed
import CredentialFailover.Text.Pieces

namespace CredentialFailover

/-- why nothing is found at a path -/
inductive Missing where
  | absent
  /-- the path goes on behind a file -/
  | behindFile
  | nameTooLong
  deriving DecidableEq

/-- what is found at the path of a settings file -/
inductive SettingsFile where
  | missing (why : Missing)
  | directory
  | file (content : List UInt8)
  deriving DecidableEq

/-- files, and folders of files and folders by name -/
inductive FileTree where
  | file (content : List UInt8)
  | folder (entries : List (String × FileTree))

namespace FileTree

/-- a tree of one file, behind the folders of a path -/
def single (content : List UInt8) : List String → FileTree
  | [] => file content
  | name :: path => folder [(name, single content path)]

/-- a tree with a file added behind the folders of a path, if they are folders -/
def insert (content : List UInt8) : List String → FileTree → FileTree
  | [], _ => file content
  | _, file old => file old
  | name :: path, folder entries =>
    folder (Keyed.insert name
      (match Keyed.get? name entries with
        | some t => insert content path t
        | none => single content path) entries)

/-- the greatest length of a part, in octets -/
def maxPart : Nat := 255

/-- the least length that a path cannot have, in octets -/
def pathLimit : Nat := 4096

/-- one part of a path, from a place with the folders around it behind it -/
def step (part : String) : List FileTree → Except Missing (List FileTree)
  | folder entries :: around =>
    if part = "" ∨ part = "." then .ok (folder entries :: around)
    else if part = ".." then .ok (if around.isEmpty then [folder entries] else around)
    else if maxPart < part.utf8ByteSize then .error .nameTooLong
    else match Keyed.get? part entries with
      | some t => .ok (t :: folder entries :: around)
      | none => .error .absent
  | _ => .error .behindFile

/-- the parts of a path, from a place -/
def go : List String → List FileTree → Except Missing (List FileTree)
  | [], place => .ok place
  | part :: path, place =>
    match step part place with
    | .error why => .error why
    | .ok place => go path place

/-- what is found at a path, for one who is in the folder at another one -/
def find (t : FileTree) (current : List String) (path : String) : SettingsFile :=
  let parts := (Text.pieces (· == '/') path.toList).map String.ofList
  if path = "" then .missing .absent
  else if pathLimit ≤ path.utf8ByteSize then .missing .nameTooLong
  else
    match go (if path.startsWith "/" then parts else current ++ parts) [t] with
    | .error why => .missing why
    | .ok (file content :: _) => .file content
    | .ok _ => .directory

end FileTree

end CredentialFailover
