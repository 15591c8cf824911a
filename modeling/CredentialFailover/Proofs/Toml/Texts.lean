/-
A text between quotation marks is read from every spelling of it.

A character stands for itself, unless it is the quotation mark, the backslash or a control character other than the tab; or
it is written as an escape, by a letter of its own or by its code point in two, four or eight hexadecimal digits. The scan
rests after each character that is spelled, so what a text looks like to the rest of the grammar, a comment, a header or a
line of its own, has no part in reading it.

Main facts: `scan_of_spelling`, `readText_of_spelling`; `charsSpelling_escaped` (every text has a spelling).
-/
import Mathlib.Tactic
import CredentialFailover.Toml.Text

namespace CredentialFailover.Toml

/-! ## Spellings -/

/-- hexadecimal digits, of either case, and the number that they go on to from another one -/
inductive Hexadecimal : ℕ → List Char → ℕ → Prop where
  | nil {n : ℕ} : Hexadecimal n [] n
  | cons {n i v : ℕ} {d : Char} {ds : List Char} (hd : Ascii.hexValue? d = some i) (hds : Hexadecimal (n * 16 + i) ds v) :
    Hexadecimal n (d :: ds) v

/-- the letters after the backslash of a short escape, with the character they name -/
def shortEscapes : List (Char × Char) :=
  [('"', '"'), ('\\', '\\'), ('b', '\x08'), ('t', '\t'), ('n', '\n'), ('f', '\x0C'), ('r', '\r'), ('e', '\x1B')]

/-- the letters after the backslash of an escape by a code point, with the number of its digits -/
def codeEscapes : List (Char × ℕ) := [('x', 2), ('u', 4), ('U', 8)]

/-- the spellings of one character between quotation marks -/
inductive CharSpelling : Char → List Char → Prop where
  | plain {c : Char} (hcontrol : c = '\t' ∨ (0x20 ≤ c.toNat ∧ c.toNat ≠ 0x7F)) (hquote : c ≠ '"') (hbackslash : c ≠ '\\') :
    CharSpelling c [c]
  | short {c e : Char} (h : (e, c) ∈ shortEscapes) : CharSpelling c ['\\', e]
  | code {c e : Char} {ds : List Char} (h : (e, ds.length) ∈ codeEscapes) (hds : Hexadecimal 0 ds c.toNat) :
    CharSpelling c ('\\' :: e :: ds)

/-- the spellings of characters one after the other -/
inductive CharsSpelling : List Char → List Char → Prop where
  | nil : CharsSpelling [] []
  | cons {c : Char} {cs first rest : List Char} (hc : CharSpelling c first) (hcs : CharsSpelling cs rest) :
    CharsSpelling (c :: cs) (first ++ rest)

/-- the marks around a text on one line in which a backslash escapes -/
def quoting : Quoting := ⟨'"', false⟩

/-! ## Scanning -/

variable {rest : List Char}

theorem isControl_eq_false_iff {c : Char} :
    isControl c = false ↔ c = '\t' ∨ (0x20 ≤ c.toNat ∧ c.toNat ≠ 0x7F) := by
  have htab : c = '\t' ↔ c.toNat = 0x09 := by rw [← Char.toNat_inj]; rfl
  rw [← Bool.not_eq_true, isControl, Bool.or_eq_true, Bool.and_eq_true, decide_eq_true_eq, bne_iff_ne, beq_iff_eq, ne_eq,
    htab]
  omega

theorem closing?_of_ne {c : Char} (h : c ≠ '"') (cs : List Char) : closing? quoting (c :: cs) = none := if_pos h

/-- a character that stands for itself -/
theorem scan_plain {c : Char} (hcontrol : isControl c = false) (hquote : c ≠ '"') (hbackslash : c ≠ '\\') :
    scan quoting .resting (c :: rest) = (scan quoting .resting rest).map fun r => (c :: r.1, r.2) := by
  have hstep : scanStep quoting .resting c = some ([c], .resting) := by
    simp [scanStep, plainStep, quoting, hcontrol, hbackslash]
  simp [scan, Scan.mayClose, closing?_of_ne hquote, hstep]

/-- a backslash, and what comes after it -/
theorem scan_backslash : scan quoting .resting ('\\' :: rest) = scan quoting .escaped rest := by
  simp [scan, Scan.mayClose, closing?, quoting, scanStep, plainStep, Quoting.escapes]

/-- a letter that names a character -/
theorem scan_short {c e : Char} (h : shortEscape? e = some c) :
    scan quoting .escaped (e :: rest) = (scan quoting .resting rest).map fun r => (c :: r.1, r.2) := by
  simp [scan, Scan.mayClose, scanStep, escapeStep, h]

/-- a letter before the digits of a code point -/
theorem scan_code {e : Char} {n : ℕ} (hshort : shortEscape? e = none) (h : escapeDigits? e = some n) :
    scan quoting .escaped (e :: rest) = scan quoting (.digits n 0) rest := by
  simp [scan, Scan.mayClose, scanStep, escapeStep, hshort, h]

/-- a digit of a code point that is not the last one -/
theorem scan_digit {d : Char} {n i left : ℕ} (hd : Ascii.hexValue? d = some i) :
    scan quoting (.digits (left + 2) n) (d :: rest) = scan quoting (.digits (left + 1) (n * 16 + i)) rest := by
  simp [scan, Scan.mayClose, scanStep, hd]

theorem scan_last_digit {c d : Char} {n i : ℕ} (hd : Ascii.hexValue? d = some i) (hc : n * 16 + i = c.toNat) :
    scan quoting (.digits 1 n) (d :: rest) = (scan quoting .resting rest).map fun r => (c :: r.1, r.2) := by
  have hvalid : c.toNat.isValidChar := c.valid
  have hscalar : scalar? (n * 16 + i) = some c := by rw [hc, scalar?, if_pos hvalid, Char.ofNat_toNat]
  simp [scan, Scan.mayClose, scanStep, hd, hscalar]

/-- the digits of a code point, to the last one -/
theorem scan_digits {c : Char} {n v : ℕ} {d : Char} {ds : List Char} (h : Hexadecimal n (d :: ds) v) (hv : v = c.toNat) :
    scan quoting (.digits (ds.length + 1) n) (d :: ds ++ rest) =
      (scan quoting .resting rest).map fun r => (c :: r.1, r.2) := by
  induction ds generalizing n d with
  | nil =>
    cases h with
    | cons hd hds =>
      cases hds with
      | nil => exact scan_last_digit hd hv
  | cons e ds ih =>
    cases h with
    | cons hd hds => exact (scan_digit hd).trans (ih hds)

/-- every spelling of a character gives that character -/
theorem scan_char {c : Char} {cs : List Char} (h : CharSpelling c cs) :
    scan quoting .resting (cs ++ rest) = (scan quoting .resting rest).map fun r => (c :: r.1, r.2) := by
  cases h with
  | plain hcontrol hquote hbackslash => exact scan_plain (isControl_eq_false_iff.2 hcontrol) hquote hbackslash
  | short h =>
    rename_i e
    have hshort : shortEscape? e = some c := by
      simp only [shortEscapes, List.mem_cons, Prod.mk.injEq, List.not_mem_nil, or_false] at h
      rcases h with ⟨rfl, rfl⟩ | ⟨rfl, rfl⟩ | ⟨rfl, rfl⟩ | ⟨rfl, rfl⟩ | ⟨rfl, rfl⟩ | ⟨rfl, rfl⟩ | ⟨rfl, rfl⟩ | ⟨rfl, rfl⟩ <;>
        rfl
    exact scan_backslash.trans (scan_short hshort)
  | code h hds =>
    rename_i e ds
    have hletter : shortEscape? e = none ∧ escapeDigits? e = some ds.length := by
      simp only [codeEscapes, List.mem_cons, Prod.mk.injEq, List.not_mem_nil, or_false] at h
      rcases h with ⟨rfl, hlength⟩ | ⟨rfl, hlength⟩ | ⟨rfl, hlength⟩ <;> rw [hlength] <;> exact ⟨rfl, rfl⟩
    obtain ⟨d, ds, rfl⟩ : ∃ d es, ds = d :: es := by
      refine List.exists_cons_of_ne_nil fun hnil => ?_
      subst hnil
      simp [codeEscapes] at h
    exact scan_backslash.trans ((scan_code hletter.1 hletter.2).trans (scan_digits hds rfl))

/-- **Every spelling of characters is scanned as those characters**, up to the mark that closes it. -/
theorem scan_of_spelling {cs bs : List Char} (h : CharsSpelling cs bs) :
    scan quoting .resting (bs ++ '"' :: rest) = some (cs, rest) := by
  induction h with
  | nil => rfl
  | cons hc _ ih => rw [List.append_assoc, scan_char hc, ih, Option.map_some]

/-! ## Texts -/

theorem head_of_char {c : Char} {cs : List Char} (h : CharSpelling c cs) : ∃ d ds, cs = d :: ds ∧ d ≠ '"' := by
  cases h with
  | plain _ hquote _ => exact ⟨c, [], rfl, hquote⟩
  | short => exact ⟨_, _, rfl, by decide⟩
  | code => exact ⟨_, _, rfl, by decide⟩

/-- what is spelled opens no text of several lines -/
theorem opening_of_spelling {cs bs : List Char} (h : CharsSpelling cs bs) (hrest : rest.head? ≠ some '"') :
    opening '"' (bs ++ '"' :: rest) = (quoting, bs ++ '"' :: rest) := by
  cases h with
  | nil =>
    cases rest with
    | nil => rfl
    | cons b rest =>
      have hb : b ≠ '"' := fun heq => hrest (congrArg some heq)
      simp [opening, hb, quoting]
  | @cons c cs first more hc hcs =>
    obtain ⟨d, ds, rfl, hd⟩ := head_of_char hc
    obtain ⟨b, bs, hbs⟩ : ∃ b bs, ds ++ more ++ '"' :: rest = b :: bs :=
      List.exists_cons_of_ne_nil (by simp)
    simp only [List.cons_append, List.append_assoc] at hbs ⊢
    rw [hbs]
    simp [opening, hd, quoting]

/-- **Every spelling of a text is read as that text**, in front of anything but another mark. -/
theorem readText_of_spelling {s : String} {bs : List Char} (h : CharsSpelling s.toList bs)
    (hrest : rest.head? ≠ some '"') : readText '"' (bs ++ '"' :: rest) = some (s, rest) := by
  simp only [readText, opening_of_spelling h hrest, scan_of_spelling h, Option.map_some, String.ofList_toList]

/-! ## A spelling of every text -/

/-- one spelling of a character: itself where it may stand for itself, else an escape -/
def escaped (c : Char) : List Char :=
  if c = '"' ∨ c = '\\' then ['\\', c]
  else if isControl c then '\\' :: 'u' :: '0' :: '0' :: Ascii.hexPair Ascii.lowerHex c.toNat
  else [c]

theorem hexValue?_lowerHex {n : ℕ} (h : n < 16) : Ascii.hexValue? (Ascii.lowerHex n) = some n := by
  revert n
  decide

theorem charSpelling_escaped (c : Char) : CharSpelling c (escaped c) := by
  unfold escaped
  split_ifs with hmark hcontrol
  · refine CharSpelling.short ?_
    rcases hmark with rfl | rfl <;> decide
  · have hlt : c.toNat < 0x80 := by
      by_contra hge
      rw [isControl_eq_false_iff.2 (Or.inr (by omega))] at hcontrol
      cases hcontrol
    have hnumber : ((0 * 16 + 0) * 16 + 0) * 16 + c.toNat / 16 = c.toNat / 16 := by omega
    have hall : c.toNat / 16 * 16 + c.toNat % 16 = c.toNat := by omega
    have hzero : Ascii.hexValue? '0' = some 0 := rfl
    have hhigh := hexValue?_lowerHex (n := c.toNat / 16) (by omega)
    have hlow := hexValue?_lowerHex (n := c.toNat % 16) (by omega)
    refine CharSpelling.code (by simp [codeEscapes, Ascii.hexPair]) ?_
    refine Hexadecimal.cons hzero (Hexadecimal.cons hzero (Hexadecimal.cons hhigh (Hexadecimal.cons hlow ?_)))
    rw [hnumber, hall]
    exact Hexadecimal.nil
  · have hplain := isControl_eq_false_iff.1 (Bool.eq_false_of_not_eq_true hcontrol)
    exact CharSpelling.plain hplain (fun h => hmark (Or.inl h)) fun h => hmark (Or.inr h)

theorem charsSpelling_escaped (cs : List Char) : CharsSpelling cs (cs.flatMap escaped) := by
  induction cs with
  | nil => exact CharsSpelling.nil
  | cons c cs ih => exact CharsSpelling.cons (charSpelling_escaped c) ih

end CredentialFailover.Toml
