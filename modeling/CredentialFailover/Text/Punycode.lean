/-
Bootstring encoding of labels: a label of any characters as one of ASCII letters, digits and hyphens.

The ASCII characters of the label come first. The others are taken in the order of their code points; for each, the number
of (code point, place) pairs passed over since the last one is written in digits of base 36, the least significant first.
A digit is final when it is below its threshold, which follows the recent sizes through a bias. Reading back, each number
tells how far on the next character is inserted.

Main facts: `threshold_pos`, `length_number` (a number takes at least a digit).
-/
import CredentialFailover.Text.Ascii

namespace CredentialFailover.Text.Punycode

/-- a digit: letters up to 25, then decimal digits -/
def digit (d : Nat) : Char := if d < 26 then Char.ofNat (0x61 + d) else Char.ofNat (0x30 + (d - 26))

/-- the threshold of the digit at a place (36, 72, …) -/
def threshold (place bias : Nat) : Nat := if place ≤ bias then 1 else if bias + 26 ≤ place then 26 else place - bias

theorem threshold_pos (place bias : Nat) : 1 ≤ threshold place bias := by
  unfold threshold
  split
  · omega
  · split <;> omega

/-- a number in digits from a place on -/
def digits (bias place n : Nat) : List Char :=
  let t := threshold place bias
  if n < t then [digit n] else digit (t + (n - t) % (36 - t)) :: digits bias (place + 36) ((n - t) / (36 - t))
termination_by n
decreasing_by
  have h1 := threshold_pos place bias
  have h2 : (n - threshold place bias) / (36 - threshold place bias) ≤ n - threshold place bias := Nat.div_le_self _ _
  omega

/-- the value of a digit in either case -/
def value? (c : Char) : Option Nat :=
  let n := c.toNat
  if 0x61 ≤ n && n ≤ 0x7A then some (n - 0x61)
  else if 0x41 ≤ n && n ≤ 0x5A then some (n - 0x41)
  else if 0x30 ≤ n && n ≤ 0x39 then some (n - 0x30 + 26)
  else none

/-- the least number that is too large -/
def limit : Nat := 4294967296

/-- a number in digits from a place on, where a unit weighs so much, added to another one; and the rest -/
def number? (bias : Nat) : Nat → Nat → Nat → List Char → Option (Nat × List Char)
  | _, _, _, [] => none
  | place, weight, sum, c :: cs =>
    match value? c with
    | none => none
    | some d =>
      let t := threshold place bias
      if limit ≤ sum + d * weight then none
      else if d < t then some (sum + d * weight, cs)
      else if limit ≤ weight * (36 - t) then none
      else number? bias (place + 36) (weight * (36 - t)) (sum + d * weight) cs

theorem length_number {bias place weight sum n : Nat} {cs rest : List Char}
    (h : number? bias place weight sum cs = some (n, rest)) : rest.length < cs.length := by
  induction cs generalizing place weight sum with
  | nil => simp [number?] at h
  | cons c cs ih =>
    rw [number?] at h
    split at h
    · simp at h
    · dsimp only at h
      split at h
      · simp at h
      · split at h
        · simp only [Option.some.injEq, Prod.mk.injEq] at h
          simp [h.2]
        · split at h
          · simp at h
          · have := ih h
            simp only [List.length_cons]
            omega

/-- a size divided down to the range of one digit, and 36 for every division -/
def scale (size place : Nat) : Nat × Nat :=
  if h : 455 < size then scale (size / 35) (place + 36) else (size, place)
termination_by size
decreasing_by omega

/-- the bias after a number, with so many characters placed so far -/
def adapt (n placed : Nat) (first : Bool) : Nat :=
  let size := if first then n / 700 else n / 2
  let r := scale (size + size / placed) 0
  r.2 + 36 * r.1 / (r.1 + 38)

/-- the work so far: the digits written, the pairs passed over, the bias, the characters placed -/
structure State where
  written : List Char
  passed : Nat
  bias : Nat
  placed : Nat

/-- one character of the label, while characters of one code point are placed -/
def step (ascii code : Nat) (s : State) (c : Char) : State :=
  if c.toNat < code then { s with passed := s.passed + 1 }
  else if c.toNat = code then
    ⟨s.written ++ digits s.bias 36 s.passed, 0, adapt s.passed (s.placed + 1) (s.placed == ascii), s.placed + 1⟩
  else s

/-- all characters of one code point after another -/
def place (label : List Char) (ascii : Nat) : List Nat → Nat → State → State
  | [], _, s => s
  | code :: codes, least, s =>
    let s := label.foldl (step ascii code) { s with passed := s.passed + (code - least) * (s.placed + 1) }
    place label ascii codes (code + 1) { s with passed := s.passed + 1 }

/-- a label with the characters that a text inserts, from a code point and a spot on -/
def insertAll (label : List Char) (code spot bias : Nat) (cs : List Char) : Option (List Char) :=
  match cs with
  | [] => some label
  | c :: cs =>
    match h : number? bias 36 1 spot (c :: cs) with
    | none => none
    | some (n, rest) =>
      have := length_number h
      let size := label.length + 1
      let code := code + n / size
      let front := label.take (n % size)
      if code.isValidChar then
        insertAll (front ++ Char.ofNat code :: label.drop (n % size)) code (n % size + 1)
          (adapt (n - spot) size (spot == 0)) rest
      else none
termination_by cs.length
decreasing_by exact this

/-- the label of an ASCII text -/
def decode? (cs : List Char) : Option (List Char) :=
  let ascii := ((cs.reverse.dropWhile (· ≠ '-')).drop 1).reverse
  insertAll ascii 128 0 72 (if ascii.isEmpty then cs else cs.drop (ascii.length + 1))

/-- a label in ASCII -/
def encode (label : List Char) : List Char :=
  let ascii := label.filter fun c => c.toNat < 0x80
  let codes := ((label.filter fun c => 0x80 ≤ c.toNat).map Char.toNat).eraseDups.mergeSort fun a b => decide (a ≤ b)
  ascii ++ (if ascii.isEmpty then [] else ['-']) ++ (place label ascii.length codes 128 ⟨[], 0, 72, ascii.length⟩).written

end CredentialFailover.Text.Punycode
