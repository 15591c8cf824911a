/-
Percent encoding: characters of an address that cannot stand in its text are written as octets in hexadecimal.

A part of an address has a class of characters to encode; every control and every character beyond ASCII is in all of
them. A character of the class becomes the octets of its UTF-8 form, each as `%` and two digits. Decoding reads such
triples back as octets and leaves a `%` without two digits alone.

Main fact: `encode_of_clean` (a text without characters of the class stays as it is).
-/
import CredentialFailover.Text.Ascii
import CredentialFailover.Text.Utf8

namespace CredentialFailover.Http.Percent

/-- characters that no part of an address shows: controls, and everything beyond ASCII -/
def isHidden (c : Char) : Bool := c.toNat < 0x20 || 0x7F ≤ c.toNat

/-- the characters encoded in a fragment -/
def inFragment (c : Char) : Bool := isHidden c || [' ', '"', '<', '>', Char.ofNat 0x60].contains c

/-- the characters encoded in a path -/
def inPath (c : Char) : Bool := inFragment c || ['#', '?', '\x7b', '\x7d'].contains c

/-- the characters encoded in a query -/
def inQuery (c : Char) : Bool := isHidden c || [' ', '"', '#', '<', '>'].contains c

/-- the characters encoded in a query where quotation marks delimit addresses -/
def inSpecialQuery (c : Char) : Bool := inQuery c || c == '\''

/-- the characters encoded in a user name or a password -/
def inUserinfo (c : Char) : Bool :=
  inPath c || ['/', ':', ';', '=', '@', '[', '\\', ']', '^', '|'].contains c

/-- an octet as a triple -/
def triple (b : UInt8) : List Char := '%' :: Ascii.hexPair Ascii.upperHex b.toNat

/-- a text with the characters of a class encoded -/
def encode (p : Char → Bool) (cs : List Char) : List Char :=
  cs.flatMap fun c => if p c then (Utf8.encode [c]).flatMap triple else [c]

/-- the octets of a text, triples read as one octet each -/
def decode : List Char → List UInt8
  | '%' :: a :: b :: cs =>
    match Ascii.hexValue? a, Ascii.hexValue? b with
    | some x, some y => (16 * x + y).toUInt8 :: decode cs
    | _, _ => 0x25 :: decode (a :: b :: cs)
  | c :: cs => Utf8.encode [c] ++ decode cs
  | [] => []

theorem encode_of_clean {p : Char → Bool} {cs : List Char} (h : ∀ c ∈ cs, p c = false) : encode p cs = cs := by
  induction cs with
  | nil => rfl
  | cons c cs ih =>
    have hc := h c (by simp)
    have hcs := ih fun d hd => h d (by simp [hd])
    simp only [encode, List.flatMap_cons, hc, Bool.false_eq_true, if_false] at hcs ⊢
    rw [hcs]
    rfl

end CredentialFailover.Http.Percent
