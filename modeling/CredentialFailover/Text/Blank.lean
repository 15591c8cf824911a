/-
Blank characters, and trimming.

Two notions of blank are in use. `isBlank` is the Unicode property White_Space; `isEdge` is the four characters that are
taken off both ends of an address. `trim p` takes the characters of a class off both ends and leaves the middle alone.
-/
namespace CredentialFailover.Text

/-- the Unicode property White_Space -/
def isBlank (c : Char) : Bool :=
  let n := c.toNat
  (0x09 ≤ n && n ≤ 0x0D) || n == 0x20 || n == 0x85 || n == 0xA0 || n == 0x1680 || (0x2000 ≤ n && n ≤ 0x200A) ||
    n == 0x2028 || n == 0x2029 || n == 0x202F || n == 0x205F || n == 0x3000

/-- space, tab, carriage return and line feed -/
def isEdge (c : Char) : Bool := c == ' ' || c == '\t' || c == '\r' || c == '\n'

/-- a text without the characters of a class at its end -/
def trimEnd (p : Char → Bool) (cs : List Char) : List Char := (cs.reverse.dropWhile p).reverse

/-- a text without the characters of a class at either end -/
def trim (p : Char → Bool) (cs : List Char) : List Char := trimEnd p (cs.dropWhile p)

theorem dropWhile_eq_nil_iff (p : Char → Bool) (cs : List Char) : cs.dropWhile p = [] ↔ ∀ c ∈ cs, p c = true := by
  induction cs with
  | nil => simp
  | cons c cs ih => by_cases h : p c = true <;> simp [h, ih]

/-- a text trims to nothing exactly when it consists of the class -/
theorem trim_eq_nil_iff (p : Char → Bool) (cs : List Char) : trim p cs = [] ↔ ∀ c ∈ cs, p c = true := by
  constructor
  · intro h c hc
    have hd : (cs.dropWhile p).reverse.dropWhile p = [] := by simpa [trim, trimEnd] using h
    rw [dropWhile_eq_nil_iff] at hd
    rw [← List.takeWhile_append_dropWhile (p := p) (l := cs)] at hc
    rcases List.mem_append.1 hc with hc | hc
    · exact List.all_eq_true.1 List.all_takeWhile c hc
    · exact hd c (by simpa using hc)
  · intro h
    have : cs.dropWhile p = [] := (dropWhile_eq_nil_iff p cs).2 h
    simp [trim, trimEnd, this]

end CredentialFailover.Text
