/-
UTF-8 as a machine that takes one octet at a time.

`decode` gives one item per character and one `none` per maximal part that cannot belong to a well-formed text; a part
ends at the first octet that cannot continue it, and that octet is read again as a first one. `decodeLossy` puts U+FFFD
for each such part, `decode?` refuses the whole text. `encode` is the inverse direction.

Main facts: `encode_of_ascii`, `map_ofNat_of_ascii` (the octets of ASCII are its code points).
-/
namespace CredentialFailover.Utf8

/-- what the machine holds between two octets: nothing, or a begun character with the number of octets owed after the
next one, the bounds of the next one, and the bits so far -/
inductive State where
  | ground
  | partway (owed : Nat) (low high : UInt8) (bits : Nat)
  deriving DecidableEq

/-- one item of a decoded text: a character, or an ill-formed part -/
abbrev Item := Option Char

/-- a first octet -/
def begin (b : UInt8) : List Item × State :=
  if b < 0x80 then ([some (Char.ofNat b.toNat)], .ground)
  else if 0xC2 ≤ b && b ≤ 0xDF then ([], .partway 0 0x80 0xBF (b.toNat - 0xC0))
  else if b == 0xE0 then ([], .partway 1 0xA0 0xBF 0)
  else if b == 0xED then ([], .partway 1 0x80 0x9F 0xD)
  else if 0xE1 ≤ b && b ≤ 0xEF then ([], .partway 1 0x80 0xBF (b.toNat - 0xE0))
  else if b == 0xF0 then ([], .partway 2 0x90 0xBF 0)
  else if 0xF1 ≤ b && b ≤ 0xF3 then ([], .partway 2 0x80 0xBF (b.toNat - 0xF0))
  else if b == 0xF4 then ([], .partway 2 0x80 0x8F 4)
  else ([none], .ground)

/-- one octet: the items it completes, and the state after it -/
def step : State → UInt8 → List Item × State
  | .ground, b => begin b
  | .partway owed low high bits, b =>
    if low ≤ b && b ≤ high then
      let bits := bits * 64 + (b.toNat - 0x80)
      match owed with
      | 0 => ([some (Char.ofNat bits)], .ground)
      | owed + 1 => ([], .partway owed 0x80 0xBF bits)
    else (none :: (begin b).1, (begin b).2)

/-- the items of a text from a state on; a character begun and not completed is an ill-formed part -/
def run : State → List UInt8 → List Item
  | .ground, [] => []
  | .partway .., [] => [none]
  | st, b :: bs => (step st b).1 ++ run (step st b).2 bs

/-- the characters and ill-formed parts of a text -/
def decode (bs : List UInt8) : List Item := run .ground bs

/-- a character of a text that may be ill-formed -/
def Item.char (i : Item) : Char := i.getD '\uFFFD'

/-- the text with U+FFFD for every ill-formed part -/
def decodeLossy (bs : List UInt8) : List Char := (decode bs).map Item.char

/-- the items as characters when none of them is ill-formed -/
def wellFormed? : List Item → Option (List Char)
  | [] => some []
  | none :: _ => none
  | some c :: is => (wellFormed? is).map (c :: ·)

/-- the text, if it is well-formed -/
def decode? (bs : List UInt8) : Option String := (wellFormed? (decode bs)).map String.ofList

/-- the number of octets in front of the first ill-formed part -/
def soundLength (bs : List UInt8) : Nat :=
  ((decode bs).takeWhile Option.isSome).foldl (fun n i => n + (Item.char i).utf8Size) 0

/-- the octets of a text -/
def encode (cs : List Char) : List UInt8 := cs.flatMap String.utf8EncodeChar

/-- the octets of a string -/
def bytes (s : String) : List UInt8 := encode s.toList

/-- in ASCII a character is one octet -/
theorem encode_of_ascii {cs : List Char} (h : ∀ c ∈ cs, c.toNat < 0x80) :
    encode cs = cs.map fun c => c.toNat.toUInt8 := by
  induction cs with
  | nil => rfl
  | cons c cs ih =>
    have hc : c.val.toNat ≤ 0x7F := Nat.le_of_lt_succ (h c (List.mem_cons_self ..))
    have hs : String.utf8EncodeChar c = [c.toNat.toUInt8] := by
      simp only [String.utf8EncodeChar, hc, if_true]
      rfl
    simp only [encode, List.flatMap_cons, hs] at ih ⊢
    rw [ih fun d hd => h d (List.mem_cons_of_mem _ hd)]
    rfl

theorem map_ofNat_of_ascii {cs : List Char} (h : ∀ c ∈ cs, c.toNat < 0x80) :
    (cs.map fun c => c.toNat.toUInt8).map (fun b => Char.ofNat b.toNat) = cs := by
  rw [List.map_map]
  refine (List.map_congr_left fun c hc => ?_).trans (List.map_id cs)
  have : c.toNat % 256 = c.toNat := Nat.mod_eq_of_lt (Nat.lt_trans (h c hc) (by decide))
  simp [this]

/-- the state after a text -/
def after : State → List UInt8 → State
  | st, [] => st
  | st, b :: bs => after (step st b).2 bs

end CredentialFailover.Utf8
