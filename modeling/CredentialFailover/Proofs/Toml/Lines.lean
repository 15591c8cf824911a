/-
A file of single-line statements is read as what its lines say.

A line is a header with a bare name, or a bare key with a text or an integer; a line break or the end of the file comes
after it. Each reader takes what is spelled off the front and stops at what cannot go on with it (`keyPart_of_bare`,
`bare_of_digits`, `read_of_spelling`), so a line is read in front of anything that ends it, and the file line by line.

Main facts: `statement_of_spelling`, `statements_of_spelling`, `parse_of_spelling`.
-/
import CredentialFailover.Proofs.Text.Cutting
import CredentialFailover.Proofs.Text.Decimal
import CredentialFailover.Proofs.Text.FixedWidth
import CredentialFailover.Proofs.Toml.Texts
import CredentialFailover.Toml.Reader

namespace CredentialFailover.Toml

/-! ## Spellings -/

/-- a character of a key without marks -/
def IsBareChar (c : Char) : Prop := c.isAlphanum = true ∨ c = '_' ∨ c = '-'

instance (c : Char) : Decidable (IsBareChar c) := inferInstanceAs (Decidable (_ ∨ _))

/-- a key that may be written without marks -/
structure IsBareKey (key : String) : Prop where
  ne_nil : key.toList ≠ []
  chars : ∀ c ∈ key.toList, IsBareChar c

instance (cs : List Char) : Decidable (∀ c ∈ cs, IsBareChar c) := List.decidableBAll _ _

instance (key : String) : Decidable (IsBareKey key) :=
  decidable_of_iff (key.toList ≠ [] ∧ ∀ c ∈ key.toList, IsBareChar c) ⟨fun h => ⟨h.1, h.2⟩, fun h => ⟨h.1, h.2⟩⟩

/-- the spellings of a value on one line -/
inductive ValueSpelling : Value → List Char → Prop where
  | text {s : String} {bs : List Char} (h : CharsSpelling s.toList bs) : ValueSpelling (.text s) ('"' :: bs ++ ['"'])
  | integer (n : ℕ) : ValueSpelling (.integer n) (Nat.toDigits 10 n)

/-- the spellings of a line without its end -/
inductive LineSpelling : Statement → List Char → Prop where
  | header {name : String} (hname : IsBareKey name) : LineSpelling (.header [] name) ('[' :: name.toList ++ [']'])
  | assign {key : String} {v : Value} {cs : List Char} (hkey : IsBareKey key) (hv : ValueSpelling v cs) :
    LineSpelling (.assign [] key v) (key.toList ++ ' ' :: '=' :: ' ' :: cs)

/-- the line breaks -/
def breaks : List (List Char) := [['\n'], ['\r', '\n']]

/-- the spellings of a file: a line break comes after each line, but the last one may do without -/
inductive FileSpelling : List Statement → List Char → Prop where
  | nil : FileSpelling [] []
  | last {s : Statement} {line : List Char} (hline : LineSpelling s line) : FileSpelling [s] line
  | more {s : Statement} {ss : List Statement} {line newLine rest : List Char} (hline : LineSpelling s line)
    (hnewLine : newLine ∈ breaks) (hrest : FileSpelling ss rest) : FileSpelling (s :: ss) (line ++ newLine ++ rest)

/-- what can come after a line: nothing, or a line break -/
def EndsLine (rest : List Char) : Prop := rest = [] ∨ ∃ newLine ∈ breaks, newLine <+: rest

/-! ## Keys -/

variable {rest : List Char}

theorem isKeyChar_iff {c : Char} : isKeyChar c = true ↔ IsBareChar c := by
  simp [isKeyChar, IsBareChar, or_assoc]

theorem IsBareChar.ne {c d : Char} (h : IsBareChar c) (hd : ¬ IsBareChar d) : c ≠ d := fun heq => hd (heq ▸ h)

theorem IsBareChar.isBlank {c : Char} (h : IsBareChar c) : isBlank c = false := by
  have hspace : c ≠ ' ' := h.ne (by decide)
  have htab : c ≠ '\t' := h.ne (by decide)
  simp [Toml.isBlank, hspace, htab]

/-- a bare key, in front of what cannot go on with it -/
theorem keyPart_of_bare {key : String} (hkey : IsBareKey key) (hrest : ∀ c ∈ rest.head?, ¬ IsBareChar c) :
    keyPart (key.toList ++ rest) = some (key, rest) := by
  obtain ⟨c, cs, hcs⟩ := List.exists_cons_of_ne_nil hkey.ne_nil
  have hc : IsBareChar c := hkey.chars c (hcs ▸ List.mem_cons_self ..)
  have hquote : c ≠ '"' := hc.ne (by decide)
  have happostrophe : c ≠ '\'' := hc.ne (by decide)
  have hread : keyPart (key.toList ++ rest) =
      let run := (key.toList ++ rest).takeWhile isKeyChar
      if run.isEmpty then none else some (String.ofList run, (key.toList ++ rest).dropWhile isKeyChar) := by
    rw [hcs]
    unfold keyPart
    split
    · rename_i heq
      exact absurd (List.cons.inj heq).1 hquote
    · rename_i heq
      exact absurd (List.cons.inj heq).1 happostrophe
    · rfl
  have hrun : ∀ d ∈ key.toList, isKeyChar d = true := fun d hd => isKeyChar_iff.2 (hkey.chars d hd)
  have hend : ∀ d ∈ rest.head?, isKeyChar d = false :=
    fun d hd => Bool.eq_false_of_not_eq_true fun h => hrest d hd (isKeyChar_iff.1 h)
  obtain ⟨htake, hdrop⟩ := Text.span_append hrun hend
  rw [hread, htake, hdrop]
  simp [hkey.ne_nil]

/-- a bare key alone, without the blanks after it -/
theorem key_of_bare {name : String} (hname : IsBareKey name) (hrest : ∀ c ∈ rest.head?, ¬ IsBareChar c)
    (hdot : (skipBlanks rest).head? ≠ some '.') : key (name.toList ++ rest) = some (([], name), skipBlanks rest) := by
  rw [key, maxDepth, keyWithin, keyPart_of_bare hname hrest]
  dsimp only
  split
  · rename_i heq
    rw [heq] at hdot
    exact absurd rfl hdot
  · rfl

theorem skipBlanks_of_head {c : Char} (h : isBlank c = false) (cs : List Char) : skipBlanks (c :: cs) = c :: cs := by
  rw [skipBlanks, List.dropWhile_cons_of_neg (by simp [h])]

theorem skipBlanks_space (cs : List Char) : skipBlanks (' ' :: cs) = skipBlanks cs := rfl

/-! ## Values -/

theorem hexValue?_of_isDigit {c : Char} (h : c.isDigit = true) : Ascii.hexValue? c = some (c.toNat - '0'.toNat) := by
  obtain ⟨hlt, hc⟩ := Text.digitChar_of_between (Text.isDigit_iff_between.1 h)
  have hall : ∀ n < 10, Ascii.hexValue? (Nat.digitChar n) = some n := by decide
  have hvalue := hall _ hlt
  rwa [hc] at hvalue

/-- decimal digits have the value that they have -/
theorem natural_of_digits {cs : List Char} (h : ∀ c ∈ cs, c.isDigit = true) : natural 10 cs = Nat.ofDigitChars 10 cs 0 := by
  have hfrom : ∀ n, cs.foldl (fun n c => n * 10 + (Ascii.hexValue? c).getD 0) n = Nat.ofDigitChars 10 cs n := by
    induction cs with
    | nil => intro n; simp
    | cons c cs ih =>
      intro n
      have hc := hexValue?_of_isDigit (h c (List.mem_cons_self ..))
      rw [List.foldl_cons, Nat.ofDigitChars_cons, hc, Option.getD_some, Nat.mul_comm n 10]
      exact ih (fun d hd => h d (List.mem_cons_of_mem _ hd)) _
  exact hfrom 0

/-- the digits of a number are the integer that it is -/
theorem integer?_of_digits (n : ℕ) : integer? (Nat.toDigits 10 n) = some (n : ℤ) := by
  rcases Nat.eq_zero_or_pos n with rfl | hpos
  · rfl
  obtain ⟨c, cs, hcs, hc⟩ := Text.exists_toDigits hpos
  have hdigits : ∀ d ∈ c :: cs, d.isDigit = true := fun d hd => Text.isDigit_of_mem_toDigits (n := n) (hcs ▸ hd)
  have hfirst : c.isDigit = true := hdigits c (List.mem_cons_self ..)
  have hminus : c ≠ '-' := fun h => absurd (h ▸ hfirst) (by decide)
  have hplus : c ≠ '+' := fun h => absurd (h ▸ hfirst) (by decide)
  have hprefix : prefixed? (c :: cs) = none := by
    unfold prefixed?
    split
    · exact absurd (List.cons.inj ‹_›).1 hc
    · exact absurd (List.cons.inj ‹_›).1 hc
    · exact absurd (List.cons.inj ‹_›).1 hc
    · rfl
  have hsign : sign (c :: cs) = (false, c :: cs) := by
    unfold sign
    split
    · exact absurd (List.cons.inj ‹_›).1 hminus
    · exact absurd (List.cons.inj ‹_›).1 hplus
    · rfl
  have hclean : Text.pieces (· == '_') (c :: cs) = [c :: cs] := by
    refine Text.pieces_of_clean fun d hd => beq_eq_false_iff_ne.2 fun h => ?_
    subst h
    exact absurd (hdigits '_' hd) (by decide)
  have hgrouped : grouped? Char.isDigit (c :: cs) = some (c :: cs) := by
    have hall : (c :: cs).all Char.isDigit = true := List.all_eq_true.2 hdigits
    simp [grouped?, hclean, hall]
  have hvalue : natural 10 (c :: cs) = n := by
    rw [natural_of_digits hdigits, ← hcs, Nat.ofDigitChars_ten_toDigits]
  rw [hcs, integer?, hprefix]
  simp [hsign, integerDigits?, hgrouped, hc, signed, hvalue]

theorem EndsLine.head {c : Char} (h : EndsLine rest) (hc : c ∈ rest.head?) : c = '\n' ∨ c = '\r' := by
  rcases h with rfl | ⟨newLine, hmem, tail, rfl⟩
  · cases hc
  · simp only [breaks, List.mem_cons, List.not_mem_nil, or_false] at hmem
    rcases hmem with rfl | rfl
    · exact Or.inl (Option.some.inj hc).symm
    · exact Or.inr (Option.some.inj hc).symm

theorem EndsLine.head_ne {c : Char} (h : EndsLine rest) (hc : c ≠ '\n' ∧ c ≠ '\r') : rest.head? ≠ some c := fun heq =>
  (h.head heq).elim hc.1 hc.2

/-- the value that digits write, at the end of a line -/
theorem bare_of_digits (n : ℕ) (hrest : EndsLine rest) : bare (Nat.toDigits 10 n ++ rest) = some (.integer n, rest) := by
  have hdigits : ∀ c ∈ Nat.toDigits 10 n, c.isDigit = true := fun c hc => Text.isDigit_of_mem_toDigits hc
  have hbare : ∀ c ∈ Nat.toDigits 10 n, isBare c = true := fun c hc => by simp [isBare, Char.isAlphanum, hdigits c hc]
  have hend : ∀ c ∈ rest.head?, isBare c = false := fun c hc => by rcases hrest.head hc with rfl | rfl <;> rfl
  obtain ⟨htake, hdrop⟩ := Text.span_append hbare hend
  have hrun : bareRun (Nat.toDigits 10 n ++ rest) = (Nat.toDigits 10 n, rest) := by
    simp only [bareRun, htake, hdrop]
    split
    · exact absurd rfl (hrest.head_ne (by decide))
    · rfl
  have hword : ∀ word : List Char, (∃ c ∈ word, c.isDigit = false) → Nat.toDigits 10 n ≠ word := by
    rintro word ⟨c, hc, hnot⟩ rfl
    rw [hdigits c hc] at hnot
    cases hnot
  have htrue : Nat.toDigits 10 n ≠ "true".toList := hword _ ⟨'t', by decide, by decide⟩
  have hfalse : Nat.toDigits 10 n ≠ "false".toList := hword _ ⟨'f', by decide, by decide⟩
  have hvalue : bareValue? (Nat.toDigits 10 n) = some (.integer n) := by
    rw [bareValue?, if_neg htrue, if_neg hfalse, integer?_of_digits]
  simp only [bare, hrun, hvalue, Option.map_some]

/-- a value begins with its mark, or with a digit -/
theorem ValueSpelling.head {v : Value} {cs : List Char} (h : ValueSpelling v cs) :
    ∃ c tail, cs = c :: tail ∧ (c = '"' ∨ c.isDigit = true) := by
  cases h with
  | text => exact ⟨_, _, rfl, Or.inl rfl⟩
  | integer n =>
    obtain ⟨c, tail, hcs⟩ := List.exists_cons_of_ne_nil (l := Nat.toDigits 10 n) (by simp)
    exact ⟨c, tail, hcs, Or.inr (Text.isDigit_of_mem_toDigits (n := n) (hcs ▸ List.mem_cons_self ..))⟩

/-- a value is read in front of what ends its line -/
theorem read_of_spelling {v : Value} {cs : List Char} {depth : ℕ} (h : ValueSpelling v cs) (hrest : EndsLine rest) :
    Value.read (depth + 1) (cs ++ rest) = some (v, rest) := by
  cases h with
  | @text s bs h =>
    have hread := readText_of_spelling h (hrest.head_ne (by decide))
    rw [List.append_assoc]
    exact congrArg (Option.map fun r => (Value.text r.1, r.2)) hread
  | integer n =>
    have hread := bare_of_digits n hrest
    obtain ⟨c, tail, hcs⟩ := List.exists_cons_of_ne_nil (l := Nat.toDigits 10 n) (by simp)
    have hc : c.isDigit = true := Text.isDigit_of_mem_toDigits (n := n) (hcs ▸ List.mem_cons_self ..)
    have hne : ∀ d, d.isDigit = false → c ≠ d := by
      rintro d hd rfl
      rw [hc] at hd
      cases hd
    rw [hcs] at hread ⊢
    have hsimple : simpleValue (c :: tail ++ rest) = bare (c :: tail ++ rest) := by
      unfold simpleValue
      split
      · exact absurd (List.cons.inj ‹_›).1 (hne _ rfl)
      · exact absurd (List.cons.inj ‹_›).1 (hne _ rfl)
      · rfl
    rw [← hread, ← hsimple]
    unfold Value.read
    split
    · exact absurd (List.cons.inj ‹_›).1 (hne _ rfl)
    · exact absurd (List.cons.inj ‹_›).1 (hne _ rfl)
    · rfl

/-! ## Lines -/

theorem statement_of_header {name : String} (hname : IsBareKey name) :
    statement ('[' :: name.toList ++ [']'] ++ rest) = some (.header [] name, rest) := by
  obtain ⟨c, tail, hcs⟩ := List.exists_cons_of_ne_nil hname.ne_nil
  have hc : IsBareChar c := hname.chars c (hcs ▸ List.mem_cons_self ..)
  have hspaced : spacedKey (name.toList ++ ']' :: rest) = some (([], name), ']' :: rest) := by
    have hskip : skipBlanks (name.toList ++ ']' :: rest) = name.toList ++ ']' :: rest := by
      rw [hcs]
      exact skipBlanks_of_head hc.isBlank _
    have hclose : skipBlanks (']' :: rest) = ']' :: rest := skipBlanks_of_head rfl rest
    rw [spacedKey, hskip, key_of_bare hname (by simp [IsBareChar]) (by simp [hclose]), Option.map_some, hclose, hclose]
  have hbracket : c ≠ '[' := hc.ne (by decide)
  rw [hcs] at hspaced ⊢
  simp only [List.cons_append, List.append_assoc, List.nil_append] at hspaced ⊢
  simp [statement, hbracket, hspaced]

/-- a key and its value, with one blank on either side of the sign between them -/
theorem entry_of_spelling {key : String} {v : Value} {cs : List Char} (hkey : IsBareKey key) (hv : ValueSpelling v cs)
    (hrest : EndsLine rest) :
    entry (some ∘ skipBlanks) (Value.read maxDepth) (key.toList ++ ' ' :: '=' :: ' ' :: cs ++ rest) =
      some (([], key, v), rest) := by
  have hsign : skipBlanks (' ' :: '=' :: ' ' :: (cs ++ rest)) = '=' :: ' ' :: (cs ++ rest) := rfl
  have hread : Toml.key (key.toList ++ ' ' :: '=' :: ' ' :: (cs ++ rest)) = _ :=
    key_of_bare hkey (by simp [IsBareChar]) (by simp [hsign])
  have hvalue : skipBlanks (cs ++ rest) = cs ++ rest := by
    obtain ⟨c, tail, rfl, hc⟩ := hv.head
    refine skipBlanks_of_head ?_ _
    rcases hc with rfl | hc
    · rfl
    · exact IsBareChar.isBlank (Or.inl (by simp [Char.isAlphanum, hc]))
  rw [hsign] at hread
  simp only [List.append_assoc, List.cons_append]
  simp only [entry, hread, Function.comp_apply, skipBlanks_of_head (c := '=') rfl, Option.bind_some, skipBlanks_space,
    hvalue, maxDepth, read_of_spelling hv hrest, Option.map_some]

theorem statement_of_assign {key : String} {v : Value} {cs : List Char} (hkey : IsBareKey key) (hv : ValueSpelling v cs)
    (hrest : EndsLine rest) :
    statement (key.toList ++ ' ' :: '=' :: ' ' :: cs ++ rest) = some (.assign [] key v, rest) := by
  have hentry := entry_of_spelling hkey hv hrest
  obtain ⟨c, tail, hcs⟩ := List.exists_cons_of_ne_nil hkey.ne_nil
  have hbracket : c ≠ '[' := (hkey.chars c (hcs ▸ List.mem_cons_self ..)).ne (by decide)
  rw [hcs] at hentry ⊢
  unfold statement
  split
  · exact absurd (List.cons.inj ‹_›).1 hbracket
  · exact absurd (List.cons.inj ‹_›).1 hbracket
  · rw [hentry, Option.map_some]

/-- what a line says is read in front of what ends it -/
theorem statement_of_spelling {s : Statement} {line : List Char} (h : LineSpelling s line) (hrest : EndsLine rest) :
    statement (line ++ rest) = some (s, rest) := by
  cases h with
  | header hname => exact statement_of_header hname
  | assign hkey hv => exact statement_of_assign hkey hv hrest

/-- a line begins with a bracket or with a character of its key -/
theorem LineSpelling.head {s : Statement} {line : List Char} (h : LineSpelling s line) :
    ∃ c tail, line = c :: tail ∧ (c = '[' ∨ IsBareChar c) := by
  cases h with
  | header => exact ⟨_, _, rfl, Or.inl rfl⟩
  | @assign key v cs hkey hv =>
    obtain ⟨c, tail, hcs⟩ := List.exists_cons_of_ne_nil hkey.ne_nil
    refine ⟨c, tail ++ ' ' :: '=' :: ' ' :: cs, by rw [hcs, List.cons_append], Or.inr ?_⟩
    exact hkey.chars c (hcs ▸ List.mem_cons_self ..)

/-- nothing is left out in front of a line -/
theorem skipGap_of_line {s : Statement} {line : List Char} (h : LineSpelling s line) (rest : List Char) :
    ∃ c tail, line ++ rest = c :: tail ∧ skipGap .blank (line ++ rest) = some (c :: tail) := by
  obtain ⟨c, tail, rfl, hc⟩ := h.head
  refine ⟨c, tail ++ rest, rfl, ?_⟩
  have hne : ∀ d, d ≠ '[' ∧ ¬ IsBareChar d → c ≠ d := by
    rintro d ⟨hbracket, hbare⟩ rfl
    exact hc.elim hbracket hbare
  have hspace : c ≠ ' ' := hne _ (by decide)
  have htab : c ≠ '\t' := hne _ (by decide)
  have hfeed : c ≠ '\n' := hne _ (by decide)
  have hreturn : c ≠ '\r' := hne _ (by decide)
  have hcomment : c ≠ '#' := hne _ (by decide)
  simp [skipGap, isBlank, hspace, htab, hfeed, hreturn, hcomment]

theorem lineEnd_of_break {newLine : List Char} (h : newLine ∈ breaks) : lineEnd (newLine ++ rest) = some rest := by
  simp only [breaks, List.mem_cons, List.not_mem_nil, or_false] at h
  rcases h with rfl | rfl <;> rfl

theorem length_pos_of_break {newLine : List Char} (h : newLine ∈ breaks) : 0 < newLine.length := by
  simp only [breaks, List.mem_cons, List.not_mem_nil, or_false] at h
  rcases h with rfl | rfl <;> decide

/-! ## Files -/

/-- **Lines are read as what they say**, in their order, up to the end of the file. -/
theorem statements_of_spelling {ss : List Statement} {cs : List Char} {fuel : ℕ} (h : FileSpelling ss cs)
    (hfuel : cs.length < fuel) : statements fuel cs = some ss := by
  induction h generalizing fuel with
  | nil =>
    obtain ⟨fuel, rfl⟩ := Nat.exists_eq_succ_of_ne_zero (Nat.ne_of_gt hfuel)
    rfl
  | @last s line hline =>
    obtain ⟨fuel, rfl⟩ := Nat.exists_eq_succ_of_ne_zero (Nat.ne_of_gt (Nat.zero_lt_of_lt hfuel))
    obtain ⟨c, tail, hcs, hgap⟩ := skipGap_of_line hline []
    have hstatement : statement (line ++ []) = some (s, []) := statement_of_spelling hline (Or.inl rfl)
    rw [List.append_nil] at hcs hgap hstatement
    obtain ⟨fuel, rfl⟩ : ∃ n, fuel = n + 1 := Nat.exists_eq_succ_of_ne_zero (by rw [hcs, List.length_cons] at hfuel; omega)
    rw [statements, hgap]
    simp only [← hcs, hstatement]
    rfl
  | @more s ss line newLine rest hline hnewLine hrest ih =>
    obtain ⟨fuel, rfl⟩ := Nat.exists_eq_succ_of_ne_zero (Nat.ne_of_gt (Nat.zero_lt_of_lt hfuel))
    obtain ⟨c, tail, hcs, hgap⟩ := skipGap_of_line hline (newLine ++ rest)
    have hends : EndsLine (newLine ++ rest) := Or.inr ⟨newLine, hnewLine, rest, rfl⟩
    have hlength := length_pos_of_break hnewLine
    simp only [List.length_append] at hfuel
    have hss : statements fuel rest = some ss := ih (by omega)
    rw [List.append_assoc, statements, hgap]
    simp only [← hcs, statement_of_spelling hline hends, lineEnd_of_break hnewLine, hss, Option.map_some]

/-- a file that begins with a line begins with no byte order mark -/
theorem dropMark_of_spelling {ss : List Statement} {cs : List Char} (h : FileSpelling ss cs) : dropMark cs = cs := by
  have hmark : ∀ {s line}, LineSpelling s line → ∀ rest, dropMark (line ++ rest) = line ++ rest := by
    intro s line hline rest
    obtain ⟨c, tail, rfl, hc⟩ := hline.head
    have hne : c ≠ '\uFEFF' := by
      rintro rfl
      exact hc.elim (by decide) (by decide)
    unfold dropMark
    split
    · exact absurd (List.cons.inj ‹_›).1 hne
    · rfl
  cases h with
  | nil => rfl
  | last hline => simpa using hmark hline []
  | more hline => rw [List.append_assoc, hmark hline]

/-- **A file is the table that its lines build.** -/
theorem parse_of_spelling {ss : List Statement} {text : String} (h : FileSpelling ss text.toList) :
    parse text = Table.ofStatements ss := by
  simp only [parse, dropMark_of_spelling h]
  rw [statements_of_spelling h (Nat.lt_succ_self _), Option.bind_some]

end CredentialFailover.Toml
