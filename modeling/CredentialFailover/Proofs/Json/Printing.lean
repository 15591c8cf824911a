/-
The printed form of a document is one of its spellings, so it is read back.

This is asked of documents without binary64 numbers whose integers have 64 bits and whose members are in order, as the
reader keeps them. A character is printed by itself, by a short escape or by its code point; items and members are
separated by a comma and a new line.

Main facts: `spelling_pretty` and, for the other direction, `plain_of_spelling`; `document_pretty` for documents of at most
`maxDepth` levels.
-/
import CredentialFailover.Json.Printer
import CredentialFailover.Proofs.Json.Reading

namespace CredentialFailover.Json

open Ascii

/-! ## Plain documents -/

/-- values that open no level and are printed exactly -/
def PlainScalar : Value → Prop
  | .null | .boolean _ | .text _ => True
  | .number (.integer n) => -2 ^ 63 ≤ n ∧ n < 2 ^ 64
  | _ => False

/-- values that are printed exactly, with so many levels at most -/
def Plain : ℕ → Value → Prop
  | 0, v => PlainScalar v
  | depth + 1, v => PlainScalar v ∨ (∃ vs, v = .list vs ∧ ∀ w ∈ vs, Plain depth w) ∨
      ∃ ms, v = .object ms ∧ Keyed.Ordered ms ∧ ∀ m ∈ ms, Plain depth m.2

/-! ## Texts -/

theorem encode_cons (c : Char) (cs : List Char) : Utf8.encode (c :: cs) = String.utf8EncodeChar c ++ Utf8.encode cs :=
  List.flatMap_cons

theorem encode_singleton (c : Char) : Utf8.encode [c] = String.utf8EncodeChar c := by
  rw [encode_cons]
  exact List.append_nil _

/-- a hexadecimal digit as it is printed -/
theorem hexDigit?_lowerHex {n : ℕ} (h : n < 16) :
    hexDigit? (lowerHex n).toNat.toUInt8 = some n ∧
      String.utf8EncodeChar (lowerHex n) = [(lowerHex n).toNat.toUInt8] := by
  revert n
  decide

/-- the code point of a control character as it is printed -/
theorem fourDigits_of_control {n : ℕ} (h : n < 0x20) :
    FourDigits n (Utf8.encode (['0', '0'] ++ hexPair lowerHex n)) := by
  obtain ⟨hhigh, hhighOctet⟩ := hexDigit?_lowerHex (n := n / 16) (by omega)
  obtain ⟨hlow, hlowOctet⟩ := hexDigit?_lowerHex (n := n % 16) (by omega)
  have hzero : hexDigit? 0x30 = some 0 := rfl
  have hnumber : ((0 * 16 + 0) * 16 + n / 16) * 16 + n % 16 = n := by omega
  have hoctets : Utf8.encode (['0', '0'] ++ hexPair lowerHex n) =
      [0x30, 0x30, (lowerHex (n / 16)).toNat.toUInt8, (lowerHex (n % 16)).toNat.toUInt8] := by
    rw [hexPair, List.cons_append, List.cons_append, List.nil_append, encode_cons, encode_cons, encode_cons,
      encode_singleton, hhighOctet, hlowOctet]
    rfl
  have hdigits := FourDigits.digits hzero hzero hhigh hlow
  rwa [hnumber, ← hoctets] at hdigits

/-- a character is printed in one of its spellings -/
theorem charSpelling_escaped (c : Char) : CharSpelling c (Utf8.encode (escaped c)) := by
  unfold escaped
  split_ifs with hquote hbackslash hb ht hn hf hr hcontrol
  · exact CharSpelling.short (by simp_all [shortEscapes])
  · exact CharSpelling.short (by simp_all [shortEscapes])
  · exact CharSpelling.short (by simp_all [shortEscapes])
  · exact CharSpelling.short (by simp_all [shortEscapes])
  · exact CharSpelling.short (by simp_all [shortEscapes])
  · exact CharSpelling.short (by simp_all [shortEscapes])
  · exact CharSpelling.short (by simp_all [shortEscapes])
  · exact CharSpelling.escape (fourDigits_of_control hcontrol)
  · rw [encode_singleton]
    exact CharSpelling.plain (not_lt.1 hcontrol) (by simpa using hquote) (by simpa using hbackslash)

theorem charsSpelling_escaped (cs : List Char) : CharsSpelling cs (Utf8.encode (cs.flatMap escaped)) := by
  induction cs with
  | nil => exact CharsSpelling.nil
  | cons c cs ih =>
    rw [List.flatMap_cons, Utf8.encode_append]
    exact CharsSpelling.cons (charSpelling_escaped c) ih

/-- a text is printed in one of its spellings -/
theorem textSpelling_quoted (s : String) : TextSpelling s (Utf8.encode (quoted s)) := by
  have hoctets : Utf8.encode (quoted s) = quote :: Utf8.encode (s.toList.flatMap escaped) ++ [quote] := by
    rw [quoted, Utf8.encode_append, encode_cons]
    rfl
  rw [hoctets]
  exact TextSpelling.quoted (charsSpelling_escaped s.toList)

/-! ## Levels -/

/-- a new line and what it is set in by are blanks -/
theorem blanks_newLine (depth : ℕ) : Blanks (Utf8.encode (newLine depth)) := by
  intro b hb
  rw [newLine, encode_cons, List.mem_append] at hb
  rcases hb with hb | hb
  · rw [List.mem_singleton.1 hb]
    decide
  · obtain ⟨c, hc, hb⟩ := List.mem_flatMap.1 hb
    rw [(List.mem_replicate.1 hc).2] at hb
    rw [List.mem_singleton.1 hb]
    decide

/-- things on lines of their own, when each line is a spelling of its thing -/
theorem separated_lines {α : Type} {spelled : α → List UInt8 → Prop} {depth : ℕ} {after : List UInt8}
    (hafter : Blanks after) {line : α → List Char} {lines : List α → List Char} (hlast : ∀ a, lines [a] = line a)
    (hmore : ∀ a b as, lines (a :: b :: as) = line a ++ ',' :: newLine depth ++ lines (b :: as)) (a : α) (as : List α)
    (h : ∀ b ∈ a :: as, spelled b (Utf8.encode (line b))) :
    Separated spelled (a :: as) (Utf8.encode (newLine depth) ++ Utf8.encode (lines (a :: as)) ++ after) := by
  induction as generalizing a with
  | nil =>
    rw [hlast]
    exact Separated.last (blanks_newLine depth) (h a (List.mem_cons_self ..)) hafter
  | cons b as ih =>
    have hfirst := h a (List.mem_cons_self ..)
    have hrest := ih b fun c hc => h c (List.mem_cons_of_mem _ hc)
    have hcomma : Utf8.encode (',' :: newLine depth) = comma :: Utf8.encode (newLine depth) := rfl
    have hshape : Utf8.encode (newLine depth) ++ Utf8.encode (lines (a :: b :: as)) ++ after =
        Utf8.encode (newLine depth) ++ Utf8.encode (line a) ++ [] ++
          comma :: (Utf8.encode (newLine depth) ++ Utf8.encode (lines (b :: as)) ++ after) := by
      rw [hmore, Utf8.encode_append, Utf8.encode_append, hcomma]
      simp
    rw [hshape]
    exact Separated.more (blanks_newLine depth) hfirst blanks_nil hrest

/-- a member on its line, when its value is printed in a spelling of it -/
theorem memberSpelling_pretty {spelled : Value → List UInt8 → Prop} (depth : ℕ) {m : String × Value}
    (h : spelled m.2 (Utf8.encode (m.2.prettyChars depth))) :
    MemberSpelling spelled m (Utf8.encode (quoted m.1 ++ ':' :: ' ' :: m.2.prettyChars depth)) := by
  have hshape : Utf8.encode (quoted m.1 ++ ':' :: ' ' :: m.2.prettyChars depth) =
      Utf8.encode (quoted m.1) ++ [] ++ colon :: [space] ++ Utf8.encode (m.2.prettyChars depth) := by
    have hcolon : String.utf8EncodeChar ':' = [colon] := rfl
    have hspace : String.utf8EncodeChar ' ' = [space] := rfl
    rw [Utf8.encode_append, encode_cons, encode_cons, hcolon, hspace]
    simp
  rw [hshape]
  exact MemberSpelling.member (textSpelling_quoted m.1) blanks_nil (blanks_singleton rfl) h

/-! ## Values -/

theorem scalarSpelling_pretty {v : Value} (h : PlainScalar v) (depth : ℕ) :
    ScalarSpelling v (Utf8.encode (v.prettyChars depth)) := by
  cases v with
  | null => exact ScalarSpelling.null
  | boolean b => cases b <;> constructor
  | number n =>
    cases n with
    | integer n => exact ScalarSpelling.integer h.1 h.2
    | binary64 bits => exact h.elim
  | text s => exact ScalarSpelling.text (textSpelling_quoted s)
  | list vs => exact h.elim
  | object ms => exact h.elim

/-- **A plain document is printed in one of its spellings**, at every depth of the text around it. -/
theorem spelling_pretty {levels : ℕ} {v : Value} (h : Plain levels v) (depth : ℕ) :
    Spelling levels v (Utf8.encode (v.prettyChars depth)) := by
  induction levels generalizing v depth with
  | zero => exact scalarSpelling_pretty h depth
  | succ levels ih =>
    rcases h with h | ⟨vs, rfl, h⟩ | ⟨ms, rfl, hordered, h⟩
    · exact Or.inl (scalarSpelling_pretty h depth)
    · refine Or.inr ?_
      cases vs with
      | nil => exact LevelSpelling.emptyList blanks_nil
      | cons v vs =>
        have hshape : Utf8.encode ((Value.list (v :: vs)).prettyChars depth) =
            openBracket :: (Utf8.encode (newLine (depth + 1)) ++ Utf8.encode (prettyItems (depth + 1) (v :: vs)) ++
              Utf8.encode (newLine depth)) ++ [closeBracket] := by
          have hopen : String.utf8EncodeChar '[' = [openBracket] := rfl
          have hclose : Utf8.encode [']'] = [closeBracket] := rfl
          rw [Value.prettyChars, Utf8.encode_append, Utf8.encode_append, Utf8.encode_append, encode_cons, hopen, hclose]
          simp
        rw [hshape]
        refine LevelSpelling.list (separated_lines (blanks_newLine depth) (fun _ => rfl) (fun _ _ _ => rfl) v vs ?_)
        intro w hw
        exact ih (h w hw) (depth + 1)
    · refine Or.inr ?_
      cases ms with
      | nil => exact LevelSpelling.emptyObject blanks_nil
      | cons m ms =>
        have hshape : Utf8.encode ((Value.object (m :: ms)).prettyChars depth) =
            openBrace :: (Utf8.encode (newLine (depth + 1)) ++ Utf8.encode (prettyMembers (depth + 1) (m :: ms)) ++
              Utf8.encode (newLine depth)) ++ [closeBrace] := by
          have hopen : String.utf8EncodeChar '\x7b' = [openBrace] := rfl
          have hclose : Utf8.encode ['\x7d'] = [closeBrace] := rfl
          rw [Value.prettyChars, Utf8.encode_append, Utf8.encode_append, Utf8.encode_append, encode_cons, hopen, hclose]
          simp
        have hsettles : Keyed.Settles (m :: ms) (m :: ms) := by
          have hofList := Keyed.settles_ofList (m :: ms)
          rwa [Keyed.ofList_of_ordered hordered] at hofList
        rw [hshape]
        refine LevelSpelling.object
          (separated_lines (blanks_newLine depth) (fun _ => rfl) (fun _ _ _ => rfl) m ms ?_) hsettles
        intro n hn
        exact memberSpelling_pretty (depth + 1) (ih (h n hn) (depth + 1))

/-! ## Values with a spelling -/

/-- every one of things with commas between them is spelled -/
theorem exists_of_separated {α : Type} {spelled : α → List UInt8 → Prop} {as : List α} {inside : List UInt8}
    (h : Separated spelled as inside) {a : α} (ha : a ∈ as) : ∃ bs, spelled a bs := by
  induction h with
  | last _ hlast _ =>
    obtain rfl := List.mem_singleton.1 ha
    exact ⟨_, hlast⟩
  | more _ hfirst _ _ ih =>
    rcases List.mem_cons.1 ha with rfl | ha
    · exact ⟨_, hfirst⟩
    · exact ih ha

theorem plainScalar_of_spelling {v : Value} {bs : List UInt8} (h : ScalarSpelling v bs) : PlainScalar v := by
  cases h with
  | integer hleast hmost => exact ⟨hleast, hmost⟩
  | null | true | false | text => trivial

/-- **What has a spelling is plain**, so the plain values are those that can be spelled. -/
theorem plain_of_spelling {levels : ℕ} {v : Value} {bs : List UInt8} (h : Spelling levels v bs) : Plain levels v := by
  induction levels generalizing v bs with
  | zero => exact plainScalar_of_spelling h
  | succ levels ih =>
    rcases h with h | h
    · exact Or.inl (plainScalar_of_spelling h)
    · refine Or.inr ?_
      cases h with
      | emptyList => exact Or.inl ⟨[], rfl, by simp⟩
      | list h =>
        refine Or.inl ⟨_, rfl, ?_⟩
        intro w hw
        obtain ⟨bs, hbs⟩ := exists_of_separated h hw
        exact ih hbs
      | emptyObject => exact Or.inr ⟨[], rfl, List.Pairwise.nil, by simp⟩
      | object h hos =>
        refine Or.inr ⟨_, rfl, hos.ordered, ?_⟩
        intro m hm
        rw [← Keyed.ofList_eq_of_settles hos] at hm
        obtain ⟨bs, hbs⟩ := exists_of_separated h (Keyed.mem_of_mem_ofList hm)
        cases hbs with
        | member _ _ _ hv => exact ih hv

/-- **A plain document is read back from its printed form.** -/
theorem document_pretty {v : Value} (h : Plain maxDepth v) : document (Utf8.bytes v.pretty) = .ok v := by
  have hread := document_of_spelling blanks_nil (spelling_pretty h 0) blanks_nil
  rwa [List.nil_append, List.append_nil, ← String.toList_ofList (l := v.prettyChars 0)] at hread

end CredentialFailover.Json
