/-
The spellings of a JSON document.

A document has many spellings: blanks may stand between tokens, members come in any order, with a later member of a key
counting instead of an earlier one, and a character of a text stands for itself, where it may, or is escaped in one or
two ways. The relations here say which octets spell what. They are read off the grammar and not off the reader.

A spelling is indexed by the number of levels of lists and objects that may be opened inside it. The reader accepts every
spelling (`Proofs.Json.Reading`), the printer writes one of them (`Proofs.Json.Printing`).
-/
import Mathlib.Tactic
import CredentialFailover.Json.Reader

namespace CredentialFailover.Json

open Ascii

/-- octets that may stand between tokens -/
def Blanks (bs : List UInt8) : Prop := ∀ b ∈ bs, isSpace b = true

theorem blanks_nil : Blanks [] := fun _ hb => absurd hb (List.not_mem_nil)

theorem blanks_singleton {b : UInt8} (h : isSpace b = true) : Blanks [b] := by
  intro c hc
  rwa [List.mem_singleton.1 hc]

theorem blanks_append {as bs : List UInt8} : Blanks (as ++ bs) ↔ Blanks as ∧ Blanks bs := List.forall_mem_append

theorem not_blanks_iff {bs : List UInt8} : ¬ Blanks bs ↔ ∃ b ∈ bs, isSpace b = false := by
  simp [Blanks]

/-! ## Texts -/

/-- four hexadecimal digits, of either case, and their number -/
inductive FourDigits : ℕ → List UInt8 → Prop where
  | digits {a b c d : UInt8} {i j k l : ℕ} (ha : hexDigit? a = some i) (hb : hexDigit? b = some j)
      (hc : hexDigit? c = some k) (hd : hexDigit? d = some l) :
      FourDigits (((i * 16 + j) * 16 + k) * 16 + l) [a, b, c, d]

/-- the octets after the backslash of a short escape, with the character they name -/
def shortEscapes : List (UInt8 × Char) :=
  [(quote, '"'), (backslash, '\\'), (slash, '/'), (0x62, '\x08'), (0x66, '\x0C'), (0x6E, '\n'), (0x72, '\r'),
    (0x74, '\t')]

/-- the spellings of one character inside a text -/
inductive CharSpelling : Char → List UInt8 → Prop where
  /-- the character itself, unless it is a control character, the quotation mark or the backslash -/
  | plain {c : Char} (hleast : 0x20 ≤ c.toNat) (hquote : c ≠ '"') (hbackslash : c ≠ '\\') :
      CharSpelling c (String.utf8EncodeChar c)
  | short {c : Char} {e : UInt8} (h : (e, c) ∈ shortEscapes) : CharSpelling c [backslash, e]
  /-- the code point of a character of the basic plane -/
  | escape {c : Char} {ds : List UInt8} (h : FourDigits c.toNat ds) : CharSpelling c (backslash :: lowerU :: ds)
  /-- the two halves of a character beyond the basic plane -/
  | pair {c : Char} {high low : ℕ} {ds es : List UInt8} (hhigh : high < 0x400) (hlow : low < 0x400)
      (hc : c.toNat = 0x10000 + high * 0x400 + low) (hds : FourDigits (0xD800 + high) ds)
      (hes : FourDigits (0xDC00 + low) es) :
      CharSpelling c (backslash :: lowerU :: ds ++ backslash :: lowerU :: es)

/-- the spellings of characters one after the other -/
inductive CharsSpelling : List Char → List UInt8 → Prop where
  | nil : CharsSpelling [] []
  | cons {c : Char} {cs : List Char} {bs rest : List UInt8} (hc : CharSpelling c bs) (hcs : CharsSpelling cs rest) :
      CharsSpelling (c :: cs) (bs ++ rest)

/-- the spellings of a text in quotation marks -/
inductive TextSpelling : String → List UInt8 → Prop where
  | quoted {s : String} {bs : List UInt8} (h : CharsSpelling s.toList bs) : TextSpelling s (quote :: bs ++ [quote])

/-! ## Values -/

/-- the spellings of values that open no level -/
inductive ScalarSpelling : Value → List UInt8 → Prop where
  | null : ScalarSpelling .null (Utf8.bytes "null")
  | true : ScalarSpelling (.boolean true) (Utf8.bytes "true")
  | false : ScalarSpelling (.boolean false) (Utf8.bytes "false")
  /-- an integer of 64 bits, with or without sign, in decimal form -/
  | integer {n : ℤ} (hleast : -2 ^ 63 ≤ n) (hmost : n < 2 ^ 64) : ScalarSpelling (.integer n) (Utf8.bytes (toString n))
  | text {s : String} {bs : List UInt8} (h : TextSpelling s bs) : ScalarSpelling (.text s) bs

/-- one or more things with commas between them and blanks around them, each spelled as given -/
inductive Separated {α : Type} (spelled : α → List UInt8 → Prop) : List α → List UInt8 → Prop where
  | last {a : α} {before bs after : List UInt8} (hbefore : Blanks before) (ha : spelled a bs) (hafter : Blanks after) :
      Separated spelled [a] (before ++ bs ++ after)
  | more {a : α} {as : List α} {before bs after rest : List UInt8} (hbefore : Blanks before) (ha : spelled a bs)
      (hafter : Blanks after) (hrest : Separated spelled as rest) :
      Separated spelled (a :: as) (before ++ bs ++ after ++ comma :: rest)

/-- the spellings of a member of an object -/
inductive MemberSpelling (spelled : Value → List UInt8 → Prop) : String × Value → List UInt8 → Prop where
  | member {key : String} {v : Value} {ks between before bs : List UInt8} (hkey : TextSpelling key ks)
      (hbetween : Blanks between) (hbefore : Blanks before) (hv : spelled v bs) :
      MemberSpelling spelled (key, v) (ks ++ between ++ colon :: before ++ bs)

/-- the spellings of lists, and of objects from members in any order, of which the last one counts under its key -/
inductive LevelSpelling (spelled : Value → List UInt8 → Prop) : Value → List UInt8 → Prop where
  | emptyList {inside : List UInt8} (h : Blanks inside) :
      LevelSpelling spelled (.list []) (openBracket :: inside ++ [closeBracket])
  | list {vs : List Value} {inside : List UInt8} (h : Separated spelled vs inside) :
      LevelSpelling spelled (.list vs) (openBracket :: inside ++ [closeBracket])
  | emptyObject {inside : List UInt8} (h : Blanks inside) :
      LevelSpelling spelled (.object []) (openBrace :: inside ++ [closeBrace])
  | object {ms os : List (String × Value)} {inside : List UInt8} (h : Separated (MemberSpelling spelled) ms inside)
      (hos : Keyed.Settles ms os) : LevelSpelling spelled (.object os) (openBrace :: inside ++ [closeBrace])

/-- the spellings of a value with so many levels at most -/
def Spelling : ℕ → Value → List UInt8 → Prop
  | 0, v, bs => ScalarSpelling v bs
  | depth + 1, v, bs => ScalarSpelling v bs ∨ LevelSpelling (Spelling depth) v bs

end CredentialFailover.Json
