/-
Domain names in ASCII.

A name is written with the characters that stand for those given, composed, and cut into labels at the full stops among
them. Labels have to be readable together. In ASCII alone and without a label in the form of one beyond ASCII, only capital
letters change.
-/
import CredentialFailover.Domain.Direction
import CredentialFailover.Domain.Label

namespace CredentialFailover.Domain

open CredentialFailover.Text

/-- the texts between the full stops of a name -/
def labelTexts (cs : List Char) : List (List Char) := pieces (· == '.') cs

/-- a name that needs no tables: ASCII without forms of labels beyond it -/
def isPlain (cs : List Char) : Bool := (cs.all fun c => c.toNat < 0x80) && (labelTexts cs).all fun l => !Label.isForm l

/-- the characters that stand for those of a name, composed -/
def written? (cs : List Char) : Option (List Char) := (cs.mapM mapped).map fun css => composed css.flatten

/-- the labels of a name -/
def labels? (cs : List Char) : Option (List Label) :=
  ((written? cs).bind fun cs => (labelTexts cs).mapM Label.read?).filter fun ls => areReadable (ls.map Label.chars)

/-- a name in ASCII -/
def ascii? (cs : List Char) : Option (List Char) :=
  if isPlain cs then some (cs.map Char.toLower)
  else (labels? cs).bind fun ls => (ls.mapM Label.ascii?).map (['.'].intercalate ·)

end CredentialFailover.Domain
