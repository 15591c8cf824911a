/-
Every spelling of a document is read as that document.

A spelling begins with an octet that says what it is, and what follows it closes it; so blanks, commas and closing brackets
are each met where the reader looks for them. The loops over items and over members are two cases of one kind of loop, which
follows the list that is spelled (`Loop.first_of_separated`); a whole value follows by induction on the levels it may open.

Main facts: `read_of_spelling` and `document_of_spelling`.
-/
import CredentialFailover.Proofs.Json.IntegerReading
import CredentialFailover.Proofs.Json.TextReading

namespace CredentialFailover.Json

open Ascii

/-! ## Blanks -/

theorem skip_of_blanks {before : List UInt8} (h : Blanks before) (bs : List UInt8) : skip (before ++ bs) = skip bs :=
  List.dropWhile_append_of_pos h

theorem skip_cons {b : UInt8} (bs : List UInt8) (h : isSpace b = false) : skip (b :: bs) = b :: bs :=
  List.dropWhile_cons_of_neg (by simp [h])

/-- blanks are skipped up to an octet that is none -/
theorem skip_mark_of_blanks {before : List UInt8} (h : Blanks before) {b : UInt8} (bs : List UInt8)
    (hb : isSpace b = false) : skip (before ++ b :: bs) = b :: bs := by
  rw [skip_of_blanks h, skip_cons bs hb]

theorem skip_eq_nil_iff {bs : List UInt8} : skip bs = [] ↔ Blanks bs := List.dropWhile_eq_nil_iff

/-- blanks in front of what closes a value close it as well -/
theorem Blanks.closes {after rest : List UInt8} (hafter : Blanks after) (hrest : Closes rest) :
    Closes (after ++ rest) := by
  cases after with
  | nil => exact hrest
  | cons b after => exact closes_cons _ (Or.inl (hafter b (List.mem_cons_self ..)))

/-! ## Scalars -/

/-- an octet that a scalar may begin with: no blank, no bracket and no brace -/
def Leading (b : UInt8) : Prop :=
  isSpace b = false ∧ b ≠ openBracket ∧ b ≠ openBrace ∧ b ≠ closeBracket ∧ b ≠ closeBrace

/-- an integer begins with a minus or a digit -/
theorem exists_integer (n : ℤ) :
    ∃ b bs, Utf8.bytes (toString n) = b :: bs ∧ (b = minus ∨ isDigit b = true) := by
  rcases lt_or_ge n 0 with hneg | hpos
  · refine ⟨minus, Utf8.encode (Nat.toDigits 10 n.natAbs), ?_, Or.inl rfl⟩
    rw [Utf8.bytes, Text.toList_toString_of_neg hneg]
    rfl
  · obtain ⟨c, cs, hcs⟩ := List.exists_cons_of_ne_nil (Nat.toDigits_ne_nil (n := n.natAbs) (b := 10))
    have hdigits : ∀ d ∈ Nat.toDigits 10 n.natAbs, d.isDigit = true := fun d hd => Text.isDigit_of_mem_toDigits hd
    refine ⟨c.toNat.toUInt8, cs.map fun d => d.toNat.toUInt8, ?_,
      Or.inr (isDigit_octet (hdigits c (hcs ▸ List.mem_cons_self ..)))⟩
    rw [Utf8.bytes, Text.toList_toString_of_nonneg hpos, encode_digits hdigits, hcs, List.map_cons]

/-- what an integer begins with is no letter of a word, no quotation mark, no blank and no bracket -/
theorem ne_of_integer {b : UInt8} (h : b = minus ∨ isDigit b = true) :
    b ≠ 0x6E ∧ b ≠ 0x74 ∧ b ≠ 0x66 ∧ b ≠ quote ∧ Leading b := by
  have hrange : b.toNat = 0x2D ∨ 0x30 ≤ b.toNat ∧ b.toNat ≤ 0x39 := by
    rcases h with rfl | h
    · exact Or.inl rfl
    · simp only [isDigit, Bool.and_eq_true, decide_eq_true_eq, UInt8.le_iff_toNat_le] at h
      exact Or.inr h
  have hne : ∀ d : UInt8, (d.toNat < 0x2D ∨ d.toNat = 0x2E ∨ d.toNat = 0x2F ∨ 0x39 < d.toNat) → b ≠ d := by
    rintro d hd rfl
    omega
  have hspace : isSpace b = false := by
    simp only [isSpace, Bool.or_eq_false_iff, beq_eq_false_iff_ne]
    exact ⟨⟨⟨hne _ (by decide), hne _ (by decide)⟩, hne _ (by decide)⟩, hne _ (by decide)⟩
  exact ⟨hne _ (by decide), hne _ (by decide), hne _ (by decide), hne _ (by decide), hspace, hne _ (by decide),
    hne _ (by decide), hne _ (by decide), hne _ (by decide)⟩

/-- a text begins with its quotation mark -/
theorem TextSpelling.exists_cons {s : String} {bs : List UInt8} (h : TextSpelling s bs) :
    ∃ inside, bs = quote :: inside ++ [quote] ∧ ∀ rest, text (inside ++ quote :: rest) = .ok (s, rest) := by
  cases h with
  | quoted h => exact ⟨_, rfl, fun rest => text_of_spelling h rest⟩

/-- a scalar is read from every spelling of it, and its first octet opens no level -/
theorem scalar_of_spelling {v : Value} {bs : List UInt8} (h : ScalarSpelling v bs) :
    (∃ b more, bs = b :: more ∧ Leading b) ∧ ∀ rest, Closes rest → scalar (bs ++ rest) = .ok (v, rest) := by
  cases h with
  | null => exact ⟨⟨0x6E, [0x75, 0x6C, 0x6C], rfl, by decide, by decide⟩, fun rest _ => rfl⟩
  | true => exact ⟨⟨0x74, [0x72, 0x75, 0x65], rfl, by decide, by decide⟩, fun rest _ => rfl⟩
  | false => exact ⟨⟨0x66, [0x61, 0x6C, 0x73, 0x65], rfl, by decide, by decide⟩, fun rest _ => rfl⟩
  | @integer n hleast hmost =>
    obtain ⟨b, more, hb, hfirst⟩ := exists_integer n
    obtain ⟨hn, ht, hf, hq, hleading⟩ := ne_of_integer hfirst
    refine ⟨⟨b, more, hb, hleading⟩, ?_⟩
    intro rest hrest
    have hread := number_toString hleast hmost hrest
    have hsign : (b == minus || isDigit b) = true := by
      rcases hfirst with rfl | h
      · rfl
      · simp [h]
    rw [hb, List.cons_append] at hread ⊢
    simp only [scalar, beq_eq_false_iff_ne.2 hn, beq_eq_false_iff_ne.2 ht, beq_eq_false_iff_ne.2 hf,
      beq_eq_false_iff_ne.2 hq, hsign, hread, Bool.false_eq_true, if_false, if_true]
    rfl
  | text h =>
    obtain ⟨inside, rfl, hread⟩ := h.exists_cons
    refine ⟨⟨quote, _, rfl, by decide, by decide⟩, ?_⟩
    intro rest _
    have hshape : quote :: inside ++ [quote] ++ rest = quote :: (inside ++ quote :: rest) := by simp
    have hscalar : scalar (quote :: (inside ++ quote :: rest)) = mapValue .text (text (inside ++ quote :: rest)) := rfl
    rw [hshape, hscalar, hread]
    rfl

/-- blanks and a first octet of a scalar: the value is read as one -/
theorem read_of_leading (depth : ℕ) {before : List UInt8} (hbefore : Blanks before) {b : UInt8} (hb : Leading b)
    (bs : List UInt8) : Value.read depth (before ++ b :: bs) = scalar (b :: bs) := by
  obtain ⟨hspace, hbracket, hbrace, -⟩ := hb
  cases depth <;> simp only [Value.read, skip_of_blanks hbefore, skip_cons bs hspace] <;> split <;> simp_all

/-! ## Loops -/

theorem Separated.length_le {α : Type} {spelled : α → List UInt8 → Prop} {as : List α} {bs : List UInt8}
    (h : Separated spelled as bs) : as.length ≤ bs.length + 1 := by
  induction h with
  | last => simp
  | more _ _ _ _ ih => simp only [List.length_append, List.length_cons]; omega

/-- two readers that read things one after the other up to a closing mark: the first thing and those after it, and those
that follow a thing -/
structure Loop {α : Type} (spelled : α → List UInt8 → Prop) (mark : UInt8) (first : Reader (List α))
    (more : ℕ → Reader (List α)) : Prop where
  mark_closes : mark = closeBracket ∨ mark = closeBrace
  stop : ∀ {fuel : ℕ} {bs rest : List UInt8}, skip bs = mark :: rest → more (fuel + 1) bs = .ok ([], rest)
  next : ∀ {fuel : ℕ} {a : α} {as : List α} {gap before bs rest rest' : List UInt8}, Blanks gap → Blanks before →
    spelled a bs → Closes rest → more fuel rest = .ok (as, rest') →
      more (fuel + 1) (gap ++ comma :: (before ++ bs ++ rest)) = .ok (a :: as, rest')
  start : ∀ {a : α} {as : List α} {before bs rest rest' : List UInt8}, Blanks before → spelled a bs → Closes rest →
    more (rest.length + 1) rest = .ok (as, rest') → first (before ++ bs ++ rest) = .ok (a :: as, rest')

section Loop

variable {α : Type} {spelled : α → List UInt8 → Prop} {mark : UInt8} {first : Reader (List α)}
  {more : ℕ → Reader (List α)} {as : List α} {inside : List UInt8}

theorem Loop.closes (h : Loop spelled mark first more) (rest : List UInt8) : Closes (mark :: rest) := by
  refine closes_cons rest ?_
  rcases h.mark_closes with rfl | rfl <;> decide

theorem Loop.skip_mark (h : Loop spelled mark first more) {gap : List UInt8} (hgap : Blanks gap) (rest : List UInt8) :
    skip (gap ++ mark :: rest) = mark :: rest := by
  refine skip_mark_of_blanks hgap rest ?_
  rcases h.mark_closes with rfl | rfl <;> decide

/-- what follows a thing is read in as many turns as there are things -/
theorem Loop.more_of_separated (h : Loop spelled mark first more) (has : Separated spelled as inside) {fuel : ℕ}
    (hfuel : as.length < fuel) {gap : List UInt8} (hgap : Blanks gap) (rest : List UInt8) :
    more fuel (gap ++ comma :: (inside ++ mark :: rest)) = .ok (as, rest) := by
  induction has generalizing fuel gap with
  | last hbefore ha hafter =>
    obtain ⟨fuel, rfl⟩ : ∃ n, fuel = n + 2 := ⟨fuel - 2, by simp at hfuel; omega⟩
    rw [List.append_assoc]
    exact h.next hgap hbefore ha (hafter.closes (h.closes rest)) (h.stop (h.skip_mark hafter rest))
  | more hbefore ha hafter _ ih =>
    obtain ⟨fuel, rfl⟩ : ∃ n, fuel = n + 1 := ⟨fuel - 1, by simp at hfuel; omega⟩
    have hcomma : ∀ bs, Closes (comma :: bs) := fun bs => closes_cons bs (by decide)
    rw [List.append_assoc, List.append_assoc, List.cons_append]
    exact h.next hgap hbefore ha (hafter.closes (hcomma _)) (ih (by simpa using hfuel) hafter)

/-- one or more things are read from every spelling -/
theorem Loop.first_of_separated (h : Loop spelled mark first more) (has : Separated spelled as inside)
    (rest : List UInt8) : first (inside ++ mark :: rest) = .ok (as, rest) := by
  cases has with
  | last hbefore ha hafter =>
    rw [List.append_assoc]
    exact h.start hbefore ha (hafter.closes (h.closes rest)) (h.stop (h.skip_mark hafter rest))
  | more hbefore ha hafter hmore =>
    rename_i inside
    have hcomma : Closes (comma :: (inside ++ mark :: rest)) := closes_cons _ (by decide)
    have hlength := hmore.length_le
    rw [List.append_assoc, List.append_assoc, List.cons_append]
    refine h.start hbefore ha (hafter.closes hcomma) (h.more_of_separated hmore ?_ hafter rest)
    simp only [List.length_append, List.length_cons]
    omega

end Loop

/-! ## Lists and objects -/

/-- a reader reads every spelling, with blanks before it, and no spelling begins with a blank or a closing bracket -/
def Reads {α : Type} (item : Reader α) (spelled : α → List UInt8 → Prop) : Prop :=
  ∀ a bs, spelled a bs →
    (∃ b more, bs = b :: more ∧ isSpace b = false ∧ b ≠ closeBracket) ∧
      ∀ before rest, Blanks before → Closes rest → item (before ++ bs ++ rest) = .ok (a, rest)

section Reads

variable {item : Reader Value} {spelled : Value → List UInt8 → Prop}

/-- blanks before a spelling are skipped up to its first octet, and the value is read from there -/
theorem Reads.skip_before (hitem : Reads item spelled) {v : Value} {before bs rest : List UInt8}
    (hbefore : Blanks before) (hv : spelled v bs) (hrest : Closes rest) :
    ∃ b more, skip (before ++ bs ++ rest) = b :: more ∧ b ≠ closeBracket ∧ item (b :: more) = .ok (v, rest) := by
  obtain ⟨⟨b, more, rfl, hspace, hclose⟩, hread⟩ := hitem v bs hv
  refine ⟨b, more ++ rest, ?_, hclose, ?_⟩
  · rw [List.append_assoc, List.cons_append, skip_mark_of_blanks hbefore _ hspace]
  · have hone := hread [] rest blanks_nil hrest
    rwa [List.nil_append, List.cons_append] at hone

/-- blanks before a member are skipped up to the quotation mark of its key, and the member is read from there -/
theorem Reads.skip_before_member (hitem : Reads item spelled) {m : String × Value} {before bs rest : List UInt8}
    (hbefore : Blanks before) (hm : MemberSpelling spelled m bs) (hrest : Closes rest) :
    ∃ more, skip (before ++ bs ++ rest) = quote :: more ∧ member item more = .ok (m, rest) := by
  obtain @⟨key, v, ks, between, gap, bs, hkey, hbetween, hgap, hv⟩ := hm
  obtain ⟨inside, rfl, hread⟩ := hkey.exists_cons
  refine ⟨inside ++ quote :: (between ++ colon :: (gap ++ bs ++ rest)), ?_, ?_⟩
  · have hshape : before ++ (quote :: inside ++ [quote] ++ between ++ colon :: gap ++ bs) ++ rest =
        before ++ quote :: (inside ++ quote :: (between ++ colon :: (gap ++ bs ++ rest))) := by simp
    rw [hshape, skip_mark_of_blanks hbefore _ (by decide)]
  · have hcolon : skip (between ++ colon :: (gap ++ bs ++ rest)) = colon :: (gap ++ bs ++ rest) :=
      skip_mark_of_blanks hbetween _ (by decide)
    exact member_colon (hread _) hcolon ((hitem v bs hv).2 gap rest hgap hrest)

theorem loop_items (hitem : Reads item spelled) : Loop spelled closeBracket (items item) (moreItems item) where
  mark_closes := Or.inl rfl
  stop := fun hskip => moreItems_close item _ hskip
  next := by
    intro fuel v vs gap before bs rest rest' hgap hbefore hv hrest hmore
    obtain ⟨b, more, hskip, hb, hone⟩ := hitem.skip_before hbefore hv hrest
    exact moreItems_cons (skip_mark_of_blanks hgap _ (by decide)) hskip hb hone hmore
  start := by
    intro v vs before bs rest rest' hbefore hv hrest hmore
    obtain ⟨b, more, hskip, hb, hone⟩ := hitem.skip_before hbefore hv hrest
    exact items_cons hskip hb hone hmore

theorem loop_members (hitem : Reads item spelled) :
    Loop (MemberSpelling spelled) closeBrace (members item) (moreMembers item) where
  mark_closes := Or.inr rfl
  stop := fun hskip => moreMembers_close item _ hskip
  next := by
    intro fuel m ms gap before bs rest rest' hgap hbefore hm hrest hmore
    obtain ⟨more, hskip, hone⟩ := hitem.skip_before_member hbefore hm hrest
    exact moreMembers_cons (skip_mark_of_blanks hgap _ (by decide)) hskip hone hmore
  start := by
    intro m ms before bs rest rest' hbefore hm hrest hmore
    obtain ⟨more, hskip, hone⟩ := hitem.skip_before_member hbefore hm hrest
    exact members_cons hskip hone hmore

end Reads

/-! ## Values -/

/-- a value that opens a level is read from every spelling, given that the values inside are -/
theorem read_of_level {depth : ℕ} {spelled : Value → List UInt8 → Prop} (hitem : Reads (Value.read depth) spelled)
    {v : Value} {bs : List UInt8} (h : LevelSpelling spelled v bs) :
    (∃ b more, bs = b :: more ∧ isSpace b = false ∧ b ≠ closeBracket) ∧
      ∀ before rest, Blanks before → Value.read (depth + 1) (before ++ bs ++ rest) = .ok (v, rest) := by
  have hlist : ∀ before inside rest, Blanks before →
      Value.read (depth + 1) (before ++ (openBracket :: inside ++ [closeBracket]) ++ rest) =
        mapValue .list (items (Value.read depth) (inside ++ closeBracket :: rest)) := by
    intro before inside rest hbefore
    have hshape : before ++ (openBracket :: inside ++ [closeBracket]) ++ rest =
        before ++ openBracket :: (inside ++ closeBracket :: rest) := by simp
    rw [hshape, Value.read, skip_of_blanks hbefore, skip_cons _ (by decide)]
    rfl
  have hobject : ∀ before inside rest, Blanks before →
      Value.read (depth + 1) (before ++ (openBrace :: inside ++ [closeBrace]) ++ rest) =
        mapValue Value.ofMembers (members (Value.read depth) (inside ++ closeBrace :: rest)) := by
    intro before inside rest hbefore
    have hshape : before ++ (openBrace :: inside ++ [closeBrace]) ++ rest =
        before ++ openBrace :: (inside ++ closeBrace :: rest) := by simp
    rw [hshape, Value.read, skip_of_blanks hbefore, skip_cons _ (by decide)]
    rfl
  cases h with
  | emptyList h =>
    refine ⟨⟨openBracket, _, rfl, by decide, by decide⟩, ?_⟩
    intro before rest hbefore
    rw [hlist _ _ _ hbefore, items_close _ (skip_mark_of_blanks h rest (by decide))]
    rfl
  | list h =>
    refine ⟨⟨openBracket, _, rfl, by decide, by decide⟩, ?_⟩
    intro before rest hbefore
    rw [hlist _ _ _ hbefore, (loop_items hitem).first_of_separated h]
    rfl
  | emptyObject h =>
    refine ⟨⟨openBrace, _, rfl, by decide, by decide⟩, ?_⟩
    intro before rest hbefore
    rw [hobject _ _ _ hbefore, members_close _ (skip_mark_of_blanks h rest (by decide))]
    rfl
  | object h hos =>
    refine ⟨⟨openBrace, _, rfl, by decide, by decide⟩, ?_⟩
    intro before rest hbefore
    rw [hobject _ _ _ hbefore, (loop_members hitem).first_of_separated h, mapValue, Value.ofMembers,
      Keyed.ofList_eq_of_settles hos]

/-- a scalar is read at every depth -/
theorem read_of_scalar (depth : ℕ) {v : Value} {bs : List UInt8} (h : ScalarSpelling v bs) :
    (∃ b more, bs = b :: more ∧ isSpace b = false ∧ b ≠ closeBracket) ∧
      ∀ before rest, Blanks before → Closes rest → Value.read depth (before ++ bs ++ rest) = .ok (v, rest) := by
  obtain ⟨⟨b, more, rfl, hleading⟩, hread⟩ := scalar_of_spelling h
  refine ⟨⟨b, more, rfl, hleading.1, hleading.2.2.2.1⟩, ?_⟩
  intro before rest hbefore hrest
  calc Value.read depth (before ++ b :: more ++ rest)
      = Value.read depth (before ++ b :: (more ++ rest)) := by rw [List.append_assoc, List.cons_append]
    _ = scalar (b :: (more ++ rest)) := read_of_leading depth hbefore hleading _
    _ = .ok (v, rest) := hread rest hrest

/-- **Every spelling of a value is read as that value**, in front of anything that closes it. -/
theorem read_of_spelling (depth : ℕ) : Reads (Value.read depth) (Spelling depth) := by
  induction depth with
  | zero =>
    intro v bs h
    exact read_of_scalar 0 h
  | succ depth ih =>
    intro v bs h
    rcases h with h | h
    · exact read_of_scalar (depth + 1) h
    · obtain ⟨hfirst, hread⟩ := read_of_level ih h
      exact ⟨hfirst, fun before rest hbefore _ => hread before rest hbefore⟩

/-! ## Documents -/

/-- a document is a value with nothing but blanks behind it -/
theorem document_eq_ok_iff {bs : List UInt8} {v : Value} :
    document bs = .ok v ↔ ∃ rest, Value.read maxDepth bs = .ok (v, rest) ∧ Blanks rest := by
  rw [document]
  cases hread : Value.read maxDepth bs with
  | error failure => simp
  | ok read =>
    obtain ⟨w, rest⟩ := read
    simp only [Except.ok.injEq, Prod.mk.injEq, ← skip_eq_nil_iff]
    constructor
    · intro h
      split at h
      · rename_i hskip
        exact ⟨rest, ⟨Except.ok.inj h, rfl⟩, hskip⟩
      · cases h
    · rintro ⟨rest', ⟨rfl, rfl⟩, hskip⟩
      rw [hskip]

/-- **Every spelling of a document is read as that document**, with blanks around it. -/
theorem document_of_spelling {v : Value} {before bs after : List UInt8} (hbefore : Blanks before)
    (h : Spelling maxDepth v bs) (hafter : Blanks after) : document (before ++ bs ++ after) = .ok v := by
  have hnothing : Closes [] := fun b hb => absurd hb (by simp)
  have hcloses : Closes after := by simpa using hafter.closes hnothing
  exact document_eq_ok_iff.2 ⟨after, (read_of_spelling maxDepth v bs h).2 before after hbefore hcloses, hafter⟩

end CredentialFailover.Json
