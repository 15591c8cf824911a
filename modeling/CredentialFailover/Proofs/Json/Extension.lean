/-
What stands behind a document has no part in how it is read.

A text, a list and an object end with a mark of their own, so whatever stands behind is left over (`SelfDelimiting`). A
number ends where the next octet cannot continue it, so it is read alike however a text goes on behind that octet
(`Delimited`). Inside a list or an object every value has such an octet behind it, because the closing mark is still to come;
this carries the step from the values inside to the whole, and the induction is on the levels that may be opened.

So a text that is read as an object is read as no document when it loses or gains anything but blanks at its end: cut short
it would, if it were a document, be one already, with the missing part left over.

Main facts: `delimited_read`, `document_append_iff`, `blanks_of_prefix`.
-/
import CredentialFailover.Proofs.Json.Reading
import CredentialFailover.Proofs.Text.Cutting

namespace CredentialFailover.Json

open Ascii

/-- a reader that leaves over whatever stands behind -/
def SelfDelimiting {α : Type} (read : Reader α) : Prop :=
  ∀ ⦃bs : List UInt8⦄ ⦃a : α⦄ ⦃rest : List UInt8⦄ (more : List UInt8), read bs = .ok (a, rest) →
    read (bs ++ more) = .ok (a, rest ++ more)

/-- a reader that leaves over whatever stands behind the octet at which it stops -/
def Delimited {α : Type} (read : Reader α) : Prop :=
  ∀ ⦃bs : List UInt8⦄ ⦃a : α⦄ ⦃b : UInt8⦄ ⦃rest : List UInt8⦄ (more : List UInt8), read bs = .ok (a, b :: rest) →
    read (bs ++ more) = .ok (a, b :: rest ++ more)

/-! ## Blanks and runs -/

/-- a run that ends before the end of a text ends there however the text goes on -/
theorem span_extended {p : UInt8 → Bool} {bs rest : List UInt8} {b : UInt8} (h : bs.dropWhile p = b :: rest)
    (more : List UInt8) :
    (bs ++ more).takeWhile p = bs.takeWhile p ∧ (bs ++ more).dropWhile p = b :: rest ++ more := by
  have hb : p b = false := Text.head?_dropWhile (by rw [h]; rfl)
  have hsplit : bs ++ more = bs.takeWhile p ++ (b :: rest ++ more) := by
    rw [← h, ← List.append_assoc, List.takeWhile_append_dropWhile]
  rw [hsplit]
  refine Text.span_append (fun a ha => List.mem_takeWhile_imp ha) ?_
  intro a ha
  obtain rfl : b = a := by simpa using ha
  exact hb

theorem skip_append {bs rest : List UInt8} {b : UInt8} (h : skip bs = b :: rest) (more : List UInt8) :
    skip (bs ++ more) = b :: rest ++ more :=
  (span_extended h more).2

/-! ## Words and texts -/

theorem selfDelimiting_word (value : Value) (letters : List UInt8) : SelfDelimiting (word value letters) := by
  intro bs v rest more h
  induction letters generalizing bs with
  | nil =>
    obtain ⟨rfl, rfl⟩ := Prod.mk.inj (Except.ok.inj h)
    rfl
  | cons w letters ih =>
    cases bs with
    | nil => cases h
    | cons b bs =>
      rw [word] at h
      rw [List.cons_append, word]
      split_ifs at h ⊢ with hb
      · exact ih h
      · cases h

theorem selfDelimiting_scan (st : Scan) : SelfDelimiting (scan st) := by
  intro bs octets rest more h
  induction bs generalizing st octets with
  | nil => cases h
  | cons b bs ih =>
    rw [scan] at h
    rw [List.cons_append, scan]
    split_ifs at h ⊢ with hclose
    · obtain ⟨rfl, rfl⟩ := Prod.mk.inj (Except.ok.inj h)
      rfl
    · cases hstep : scanStep st b with
      | error cause =>
        rw [hstep] at h
        cases h
      | ok out =>
        obtain ⟨first, next⟩ := out
        simp only [hstep] at h ⊢
        cases hmore : scan next bs with
        | error failure =>
          rw [hmore] at h
          cases h
        | ok read =>
          obtain ⟨octets', rest'⟩ := read
          rw [hmore] at h
          obtain ⟨rfl, rfl⟩ := Prod.mk.inj (Except.ok.inj h)
          rw [ih next hmore]

theorem selfDelimiting_text : SelfDelimiting text := by
  intro bs s rest more h
  unfold text at h ⊢
  cases hscan : scan .resting bs with
  | error failure =>
    rw [hscan] at h
    cases h
  | ok read =>
    obtain ⟨octets, rest'⟩ := read
    rw [hscan] at h
    rw [selfDelimiting_scan .resting more hscan]
    simp only at h ⊢
    cases hdecode : Utf8.decode? octets with
    | none =>
      rw [hdecode] at h
      cases h
    | some s' =>
      rw [hdecode] at h
      obtain ⟨rfl, rfl⟩ := Prod.mk.inj (Except.ok.inj h)
      rfl

/-! ## Numbers -/

theorem selfDelimiting_finish (negative : Bool) (significand : ℕ) (e : ℤ) :
    SelfDelimiting (finish negative significand e) := by
  intro bs n rest more h
  unfold finish at h ⊢
  cases hscale : scale? significand e with
  | none =>
    rw [hscale] at h
    cases h
  | some x =>
    rw [hscale] at h
    obtain ⟨rfl, rfl⟩ := Prod.mk.inj (Except.ok.inj h)
    rfl

theorem eq_nil_of_finish {negative : Bool} {significand : ℕ} {e : ℤ} {n : Number} {rest : List UInt8}
    (h : finish negative significand e [] = .ok (n, rest)) : rest = [] := by
  unfold finish at h
  cases hscale : scale? significand e with
  | none =>
    rw [hscale] at h
    cases h
  | some x =>
    rw [hscale] at h
    exact (Prod.mk.inj (Except.ok.inj h)).2.symm

theorem exponentDigits_append {size : ℕ} {bs rest : List UInt8} {r : Option ℕ} {b : UInt8}
    (h : exponentDigits size bs = (r, b :: rest)) (more : List UInt8) :
    exponentDigits size (bs ++ more) = (r, b :: rest ++ more) := by
  induction bs generalizing size with
  | nil => cases h
  | cons c bs ih =>
    rw [exponentDigits] at h
    rw [List.cons_append, exponentDigits]
    split_ifs at h ⊢ with hdigit hroom
    · exact ih h
    · obtain ⟨rfl, rfl⟩ := Prod.mk.inj h
      rfl
    · obtain ⟨rfl, hrest⟩ := Prod.mk.inj h
      rw [← hrest, List.cons_append]

theorem exponentSign_cons (b : UInt8) (bs : List UInt8) :
    exponentSign (b :: bs) =
      if b = plus then (false, bs) else if b = minus then (true, bs) else (false, b :: bs) := by
  unfold exponentSign
  split
  · rename_i heq
    obtain ⟨rfl, rfl⟩ := List.cons.inj heq
    rfl
  · rename_i heq
    obtain ⟨rfl, rfl⟩ := List.cons.inj heq
    rfl
  · rename_i hplus hminus
    have hp : b ≠ plus := by
      rintro rfl
      exact hplus bs rfl
    have hm : b ≠ minus := by
      rintro rfl
      exact hminus bs rfl
    rw [if_neg hp, if_neg hm]

theorem exponentSign_append {bs rest : List UInt8} {down : Bool} {b : UInt8}
    (h : exponentSign bs = (down, b :: rest)) (more : List UInt8) :
    exponentSign (bs ++ more) = (down, b :: rest ++ more) := by
  cases bs with
  | nil => cases h
  | cons c bs =>
    rw [exponentSign_cons] at h
    rw [List.cons_append, exponentSign_cons]
    split_ifs at h ⊢
    all_goals
      obtain ⟨rfl, hrest⟩ := Prod.mk.inj h
      simp only [← hrest, List.cons_append]

theorem delimited_exponent (negative : Bool) (significand : ℕ) (start : ℤ) :
    Delimited (exponent negative significand start) := by
  intro bs n b rest more h
  unfold exponent at h ⊢
  cases hsign : exponentSign bs with
  | mk down behind =>
  rw [hsign] at h
  cases behind with
  | nil => cases h
  | cons c cs =>
    rw [exponentSign_append hsign]
    simp only [List.cons_append] at h ⊢
    by_cases hdigit : isDigit c = true
    · rw [if_pos hdigit] at h ⊢
      cases hdigits : exponentDigits (digit c) cs with
      | mk size? behind =>
      rw [hdigits] at h
      cases behind with
      | nil =>
        cases size? with
        | none =>
          simp only at h
          split_ifs at h
          · cases h
          · cases h
        | some size => cases eq_nil_of_finish h
      | cons d ds =>
        rw [exponentDigits_append hdigits]
        cases size? with
        | none =>
          simp only at h ⊢
          split_ifs at h ⊢
          · cases h
          · obtain ⟨rfl, hrest⟩ := Prod.mk.inj (Except.ok.inj h)
            rw [(span_extended hrest more).2]
            rfl
        | some size => exact selfDelimiting_finish _ _ _ more h
    · rw [if_neg hdigit] at h
      cases h

theorem afterFraction_cons (negative : Bool) (significand : ℕ) (start : ℤ) (b : UInt8) (bs : List UInt8) :
    afterFraction negative significand start (b :: bs) =
      if b = lowerE ∨ b = upperE then exponent negative significand start bs
      else finish negative significand start (b :: bs) := by
  unfold afterFraction
  split <;> simp_all

theorem delimited_afterFraction (negative : Bool) (significand : ℕ) (start : ℤ) :
    Delimited (afterFraction negative significand start) := by
  intro bs n b rest more h
  cases bs with
  | nil => cases eq_nil_of_finish h
  | cons c cs =>
    rw [afterFraction_cons] at h
    rw [List.cons_append, afterFraction_cons]
    split_ifs at h ⊢
    · exact delimited_exponent _ _ _ more h
    · exact selfDelimiting_finish _ _ _ more h

theorem delimited_fraction (negative : Bool) (significand : ℕ) (start : ℤ) :
    Delimited (fraction negative significand start) := by
  intro bs n b rest more h
  unfold fraction at h ⊢
  simp only at h ⊢
  by_cases hdigits : (bs.takeWhile isDigit).isEmpty = true
  · rw [if_pos hdigits] at h
    cases h
  · rw [if_neg hdigits] at h
    cases hbehind : bs.dropWhile isDigit with
    | nil =>
      rw [hbehind] at h
      cases eq_nil_of_finish h
    | cons c cs =>
      obtain ⟨htake, hdrop⟩ := span_extended hbehind more
      rw [hbehind] at h
      rw [htake, hdrop, if_neg hdigits]
      exact delimited_afterFraction _ _ _ more h

theorem afterInteger_cons (negative : Bool) (significand uncounted : ℕ) (b : UInt8) (bs : List UInt8) :
    afterInteger negative significand uncounted (b :: bs) =
      if b = dot then fraction negative significand uncounted bs
      else if b = lowerE ∨ b = upperE then exponent negative significand uncounted bs
      else if uncounted = 0 then .ok (whole negative significand, b :: bs)
      else finish negative significand uncounted (b :: bs) := by
  unfold afterInteger
  split
  · rename_i heq
    obtain ⟨rfl, rfl⟩ := List.cons.inj heq
    rfl
  · rename_i heq
    obtain ⟨rfl, rfl⟩ := List.cons.inj heq
    rfl
  · rename_i heq
    obtain ⟨rfl, rfl⟩ := List.cons.inj heq
    rfl
  · rename_i hdot hlower hupper
    have hexponent : ¬ (b = lowerE ∨ b = upperE) := by
      rintro (rfl | rfl)
      · exact hlower bs rfl
      · exact hupper bs rfl
    have hpoint : b ≠ dot := by
      rintro rfl
      exact hdot bs rfl
    rw [if_neg hpoint, if_neg hexponent]

theorem eq_nil_of_afterInteger {negative : Bool} {significand uncounted : ℕ} {n : Number} {rest : List UInt8}
    (h : afterInteger negative significand uncounted [] = .ok (n, rest)) : rest = [] := by
  unfold afterInteger at h
  simp only at h
  split_ifs at h
  · exact (Prod.mk.inj (Except.ok.inj h)).2.symm
  · exact eq_nil_of_finish h

theorem delimited_afterInteger (negative : Bool) (significand uncounted : ℕ) :
    Delimited (afterInteger negative significand uncounted) := by
  intro bs n b rest more h
  cases bs with
  | nil => cases eq_nil_of_afterInteger h
  | cons c cs =>
    rw [afterInteger_cons] at h
    rw [List.cons_append, afterInteger_cons]
    split_ifs at h ⊢
    · exact delimited_fraction _ _ _ more h
    · exact delimited_exponent _ _ _ more h
    · obtain ⟨rfl, hrest⟩ := Prod.mk.inj (Except.ok.inj h)
      rw [← hrest, List.cons_append]
    · exact selfDelimiting_finish _ _ _ more h

theorem delimited_unsignedNumber (negative : Bool) : Delimited (unsignedNumber negative) := by
  intro bs n b rest more h
  cases bs with
  | nil => cases h
  | cons c cs =>
    unfold unsignedNumber at h ⊢
    simp only [List.cons_append] at h ⊢
    by_cases hzero : (c == zero) = true
    · rw [if_pos hzero] at h ⊢
      cases cs with
      | nil => cases eq_nil_of_afterInteger h
      | cons d ds =>
        simp only [List.cons_append] at h ⊢
        split_ifs at h ⊢
        · cases h
        · exact delimited_afterInteger _ _ _ more h
    · rw [if_neg hzero] at h ⊢
      by_cases hdigit : isDigit c = true
      · rw [if_pos hdigit] at h ⊢
        cases hbehind : cs.dropWhile isDigit with
        | nil =>
          rw [hbehind] at h
          cases eq_nil_of_afterInteger h
        | cons d ds =>
          obtain ⟨htake, hdrop⟩ := span_extended hbehind more
          rw [hbehind] at h
          rw [htake, hdrop]
          exact delimited_afterInteger _ _ _ more h
      · rw [if_neg hdigit] at h
        cases h

theorem number_cons (b : UInt8) (bs : List UInt8) :
    number (b :: bs) = if b = minus then unsignedNumber true bs else unsignedNumber false (b :: bs) := by
  unfold number
  split <;> simp_all

theorem delimited_number : Delimited number := by
  intro bs n b rest more h
  cases bs with
  | nil => cases h
  | cons c cs =>
    rw [number_cons] at h
    rw [List.cons_append, number_cons]
    split_ifs at h ⊢
    · exact delimited_unsignedNumber _ more h
    · exact delimited_unsignedNumber _ more h

/-! ## Scalars -/

theorem mapValue_eq_ok_iff {α : Type} {f : α → Value} {r : Except Failure (α × List UInt8)} {v : Value}
    {rest : List UInt8} : mapValue f r = .ok (v, rest) ↔ ∃ a, r = .ok (a, rest) ∧ f a = v := by
  cases r with
  | error failure =>
    constructor
    · intro h
      cases h
    · rintro ⟨a, h, -⟩
      cases h
  | ok read =>
    obtain ⟨a, behind⟩ := read
    simp only [mapValue, Except.ok.injEq, Prod.mk.injEq]
    constructor
    · rintro ⟨rfl, rfl⟩
      exact ⟨a, ⟨rfl, rfl⟩, rfl⟩
    · rintro ⟨a', ⟨rfl, rfl⟩, rfl⟩
      exact ⟨rfl, rfl⟩

theorem delimited_scalar : Delimited scalar := by
  intro bs v b rest more h
  cases bs with
  | nil => cases h
  | cons c cs =>
    rw [scalar] at h
    rw [List.cons_append, scalar]
    split_ifs at h ⊢
    · exact selfDelimiting_word _ _ more h
    · exact selfDelimiting_word _ _ more h
    · exact selfDelimiting_word _ _ more h
    · obtain ⟨s, hread, rfl⟩ := mapValue_eq_ok_iff.1 h
      exact mapValue_eq_ok_iff.2 ⟨s, selfDelimiting_text more hread, rfl⟩
    · obtain ⟨n, hread, rfl⟩ := mapValue_eq_ok_iff.1 h
      exact mapValue_eq_ok_iff.2 ⟨n, delimited_number more hread, rfl⟩
    · cases h

theorem eq_of_word {value v : Value} {letters bs rest : List UInt8} (h : word value letters bs = .ok (v, rest)) :
    v = value := by
  induction letters generalizing bs with
  | nil => exact (Prod.mk.inj (Except.ok.inj h)).1.symm
  | cons w letters ih =>
    cases bs with
    | nil => cases h
    | cons b bs =>
      rw [word] at h
      split_ifs at h
      · exact ih h
      · cases h

/-- a value that opens no level is no object -/
theorem members?_of_scalar {bs rest : List UInt8} {v : Value} (h : scalar bs = .ok (v, rest)) : v.members? = none := by
  cases bs with
  | nil => cases h
  | cons c cs =>
    rw [scalar] at h
    split_ifs at h
    · rw [eq_of_word h]
      rfl
    · rw [eq_of_word h]
      rfl
    · rw [eq_of_word h]
      rfl
    · obtain ⟨s, -, rfl⟩ := mapValue_eq_ok_iff.1 h
      rfl
    · obtain ⟨n, -, rfl⟩ := mapValue_eq_ok_iff.1 h
      rfl
    · cases h

/-! ## Loops -/

/-- two readers that take things one after the other up to a closing mark, from the first one on and behind a thing; what
they take as one thing is given -/
structure Turns {α : Type} (taken : List UInt8 → α → List UInt8 → Prop) (mark : UInt8) (first : Reader (List α))
    (more : ℕ → Reader (List α)) : Prop where
  more_zero : ∀ {bs : List UInt8} {as : List α} {rest : List UInt8}, more 0 bs ≠ .ok (as, rest)
  more_succ : ∀ {fuel : ℕ} {bs : List UInt8} {as : List α} {rest : List UInt8},
    more (fuel + 1) bs = .ok (as, rest) ↔
      skip bs = mark :: rest ∧ as = [] ∨
        ∃ bs' a behind as', skip bs = comma :: bs' ∧ taken bs' a behind ∧ more fuel behind = .ok (as', rest) ∧
          as = a :: as'
  first : ∀ {bs : List UInt8} {as : List α} {rest : List UInt8},
    first bs = .ok (as, rest) ↔
      skip bs = mark :: rest ∧ as = [] ∨
        ∃ a behind as', taken bs a behind ∧ more (behind.length + 1) behind = .ok (as', rest) ∧ as = a :: as'

section Turns

variable {α : Type} {taken : List UInt8 → α → List UInt8 → Prop} {mark : UInt8} {first : Reader (List α)}
  {more : ℕ → Reader (List α)}

theorem Turns.ne_nil (h : Turns taken mark first more) {fuel : ℕ} {bs : List UInt8} {as : List α} {rest : List UInt8}
    (hmore : more fuel bs = .ok (as, rest)) : bs ≠ [] := by
  rintro rfl
  cases fuel with
  | zero => exact h.more_zero hmore
  | succ fuel =>
    rcases h.more_succ.1 hmore with ⟨hskip, -⟩ | ⟨_, _, _, _, hskip, -⟩
    · cases hskip
    · cases hskip

/-- the closing mark is still to come behind every thing, so each is taken alike when the text goes on -/
theorem Turns.more_append (h : Turns taken mark first more)
    (htaken : ∀ {bs a b rest} (ext : List UInt8), taken bs a (b :: rest) → taken (bs ++ ext) a (b :: rest ++ ext))
    {fuel fuel' : ℕ} (hfuel : fuel ≤ fuel') {bs : List UInt8} {as : List α} {rest : List UInt8}
    (hmore : more fuel bs = .ok (as, rest)) (ext : List UInt8) : more fuel' (bs ++ ext) = .ok (as, rest ++ ext) := by
  induction fuel generalizing fuel' bs as with
  | zero => exact absurd hmore h.more_zero
  | succ fuel ih =>
    obtain ⟨fuel', rfl⟩ : ∃ n, fuel' = n + 1 := ⟨fuel' - 1, by omega⟩
    rcases h.more_succ.1 hmore with ⟨hskip, rfl⟩ | ⟨bs', a, behind, as', hcomma, ha, hbehind, rfl⟩
    · exact h.more_succ.2 (Or.inl ⟨skip_append hskip ext, rfl⟩)
    · obtain ⟨c, cs, rfl⟩ := List.exists_cons_of_ne_nil (h.ne_nil hbehind)
      have hnext := ih (by omega : fuel ≤ fuel') hbehind
      exact h.more_succ.2 (Or.inr ⟨_, a, _, as', skip_append hcomma ext, htaken ext ha, hnext, rfl⟩)

theorem Turns.selfDelimiting (h : Turns taken mark first more)
    (htaken : ∀ {bs a b rest} (ext : List UInt8), taken bs a (b :: rest) → taken (bs ++ ext) a (b :: rest ++ ext)) :
    SelfDelimiting first := by
  intro bs as rest ext hfirst
  rcases h.first.1 hfirst with ⟨hskip, rfl⟩ | ⟨a, behind, as', ha, hbehind, rfl⟩
  · exact h.first.2 (Or.inl ⟨skip_append hskip ext, rfl⟩)
  · obtain ⟨c, cs, rfl⟩ := List.exists_cons_of_ne_nil (h.ne_nil hbehind)
    have hlength : (c :: cs).length + 1 ≤ (c :: cs ++ ext).length + 1 := by
      rw [List.length_append]
      omega
    exact h.first.2 (Or.inr ⟨a, _, as', htaken ext ha, h.more_append htaken hlength hbehind ext, rfl⟩)

end Turns

/-! ## Lists and objects -/

section Levels

variable {item : Reader Value}

/-- what is taken as an item: a value in front of which no closing bracket stands -/
def TakenItem (item : Reader Value) (bs : List UInt8) (v : Value) (behind : List UInt8) : Prop :=
  ∃ b more, skip bs = b :: more ∧ b ≠ closeBracket ∧ item (b :: more) = .ok (v, behind)

/-- what is taken as a member: a member from the quotation mark of its key on -/
def TakenMember (item : Reader Value) (bs : List UInt8) (m : String × Value) (behind : List UInt8) : Prop :=
  ∃ more, skip bs = quote :: more ∧ member item more = .ok (m, behind)

theorem turns_items (item : Reader Value) : Turns (TakenItem item) closeBracket (items item) (moreItems item) where
  more_zero := by
    intro bs vs rest h
    cases h
  more_succ := by
    intro fuel bs vs rest
    constructor
    · intro h
      rw [moreItems] at h
      split at h
      · cases h
      · rename_i hskip
        obtain ⟨rfl, rfl⟩ := Prod.mk.inj (Except.ok.inj h)
        exact Or.inl ⟨hskip, rfl⟩
      · rename_i bs' hcomma
        cases hskip : skip bs' with
        | nil =>
          rw [hskip] at h
          cases h
        | cons b more =>
          rw [hskip] at h
          split at h
          · cases h
          · cases h
          · rename_i hclose
            have hb : b ≠ closeBracket := by
              rintro rfl
              exact hclose more rfl
            split at h
            · cases h
            · rename_i v behind hitem
              split at h
              · cases h
              · rename_i vs' behind' hmore
                obtain ⟨rfl, rfl⟩ := Prod.mk.inj (Except.ok.inj h)
                exact Or.inr ⟨bs', v, behind, vs', hcomma, ⟨b, more, hskip, hb, hitem⟩, hmore, rfl⟩
      · cases h
    · rintro (⟨hskip, rfl⟩ | ⟨bs', v, behind, vs', hcomma, ⟨b, more, hskip, hb, hitem⟩, hmore, rfl⟩)
      · exact moreItems_close item fuel hskip
      · exact moreItems_cons hcomma hskip hb hitem hmore
  first := by
    intro bs vs rest
    constructor
    · intro h
      rw [items] at h
      cases hskip : skip bs with
      | nil =>
        rw [hskip] at h
        cases h
      | cons b more =>
        rw [hskip] at h
        split at h
        · cases h
        · rename_i hclose
          obtain ⟨rfl, rfl⟩ := Prod.mk.inj (Except.ok.inj h)
          exact Or.inl ⟨hclose, rfl⟩
        · rename_i hclose
          have hb : b ≠ closeBracket := by
            rintro rfl
            exact hclose more rfl
          split at h
          · cases h
          · rename_i v behind hitem
            split at h
            · cases h
            · rename_i vs' behind' hmore
              obtain ⟨rfl, rfl⟩ := Prod.mk.inj (Except.ok.inj h)
              exact Or.inr ⟨v, behind, vs', ⟨b, more, hskip, hb, hitem⟩, hmore, rfl⟩
    · rintro (⟨hskip, rfl⟩ | ⟨v, behind, vs', ⟨b, more, hskip, hb, hitem⟩, hmore, rfl⟩)
      · exact items_close item hskip
      · exact items_cons hskip hb hitem hmore

theorem turns_members (item : Reader Value) :
    Turns (TakenMember item) closeBrace (members item) (moreMembers item) where
  more_zero := by
    intro bs ms rest h
    cases h
  more_succ := by
    intro fuel bs ms rest
    constructor
    · intro h
      rw [moreMembers] at h
      split at h
      · cases h
      · rename_i hskip
        obtain ⟨rfl, rfl⟩ := Prod.mk.inj (Except.ok.inj h)
        exact Or.inl ⟨hskip, rfl⟩
      · rename_i bs' hcomma
        split at h
        · cases h
        · cases h
        · rename_i more hskip
          split at h
          · cases h
          · rename_i m behind hmember
            split at h
            · cases h
            · rename_i ms' behind' hmore
              obtain ⟨rfl, rfl⟩ := Prod.mk.inj (Except.ok.inj h)
              exact Or.inr ⟨bs', m, behind, ms', hcomma, ⟨more, hskip, hmember⟩, hmore, rfl⟩
        · cases h
      · cases h
    · rintro (⟨hskip, rfl⟩ | ⟨bs', m, behind, ms', hcomma, ⟨more, hskip, hmember⟩, hmore, rfl⟩)
      · exact moreMembers_close item fuel hskip
      · exact moreMembers_cons hcomma hskip hmember hmore
  first := by
    intro bs ms rest
    constructor
    · intro h
      rw [members] at h
      split at h
      · cases h
      · rename_i hskip
        obtain ⟨rfl, rfl⟩ := Prod.mk.inj (Except.ok.inj h)
        exact Or.inl ⟨hskip, rfl⟩
      · rename_i more hskip
        split at h
        · cases h
        · rename_i m behind hmember
          split at h
          · cases h
          · rename_i ms' behind' hmore
            obtain ⟨rfl, rfl⟩ := Prod.mk.inj (Except.ok.inj h)
            exact Or.inr ⟨m, behind, ms', ⟨more, hskip, hmember⟩, hmore, rfl⟩
      · cases h
    · rintro (⟨hskip, rfl⟩ | ⟨m, behind, ms', ⟨more, hskip, hmember⟩, hmore, rfl⟩)
      · exact members_close item hskip
      · exact members_cons hskip hmember hmore

theorem member_eq_ok_iff {bs rest : List UInt8} {m : String × Value} :
    member item bs = .ok (m, rest) ↔
      ∃ bs' bs'', text bs = .ok (m.1, bs') ∧ skip bs' = colon :: bs'' ∧ item bs'' = .ok (m.2, rest) := by
  constructor
  · intro h
    rw [member] at h
    split at h
    · cases h
    · rename_i key bs' hkey
      split at h
      · cases h
      · rename_i bs'' hcolon
        split at h
        · cases h
        · rename_i v behind hitem
          obtain ⟨rfl, rfl⟩ := Prod.mk.inj (Except.ok.inj h)
          exact ⟨bs', bs'', hkey, hcolon, hitem⟩
      · cases h
  · rintro ⟨bs', bs'', hkey, hcolon, hitem⟩
    exact member_colon hkey hcolon hitem

theorem TakenItem.append (hitem : Delimited item) {bs rest : List UInt8} {v : Value} {b : UInt8} (ext : List UInt8)
    (h : TakenItem item bs v (b :: rest)) : TakenItem item (bs ++ ext) v (b :: rest ++ ext) := by
  obtain ⟨c, more, hskip, hc, hread⟩ := h
  exact ⟨c, more ++ ext, skip_append hskip ext, hc, hitem ext hread⟩

theorem TakenMember.append (hitem : Delimited item) {bs rest : List UInt8} {m : String × Value} {b : UInt8}
    (ext : List UInt8) (h : TakenMember item bs m (b :: rest)) : TakenMember item (bs ++ ext) m (b :: rest ++ ext) := by
  obtain ⟨more, hskip, hmember⟩ := h
  obtain ⟨bs', bs'', hkey, hcolon, hread⟩ := member_eq_ok_iff.1 hmember
  have hgoes := member_colon (selfDelimiting_text ext hkey) (skip_append hcolon ext) (hitem ext hread)
  exact ⟨more ++ ext, skip_append hskip ext, hgoes⟩

theorem selfDelimiting_items (hitem : Delimited item) : SelfDelimiting (items item) :=
  (turns_items item).selfDelimiting fun ext h => h.append hitem ext

theorem selfDelimiting_members (hitem : Delimited item) : SelfDelimiting (members item) :=
  (turns_members item).selfDelimiting fun ext h => h.append hitem ext

end Levels

/-! ## Values -/

theorem read_zero {bs cs : List UInt8} {c : UInt8} (h : skip bs = c :: cs) :
    Value.read 0 bs = if c = openBracket ∨ c = openBrace then failAt .tooDeep (c :: cs) else scalar (c :: cs) := by
  rw [Value.read, h]
  split <;> simp_all

theorem read_succ (depth : ℕ) {bs cs : List UInt8} {c : UInt8} (h : skip bs = c :: cs) :
    Value.read (depth + 1) bs =
      if c = openBracket then mapValue .list (items (Value.read depth) cs)
      else if c = openBrace then mapValue Value.ofMembers (members (Value.read depth) cs)
      else scalar (c :: cs) := by
  rw [Value.read, h]
  split
  · rename_i heq
    obtain ⟨rfl, rfl⟩ := List.cons.inj heq
    rfl
  · rename_i heq
    obtain ⟨rfl, rfl⟩ := List.cons.inj heq
    rfl
  · rename_i hbracket hbrace
    have hb : c ≠ openBracket := by
      rintro rfl
      exact hbracket cs rfl
    have hc : c ≠ openBrace := by
      rintro rfl
      exact hbrace cs rfl
    rw [if_neg hb, if_neg hc]

/-- there is no value in blanks -/
theorem skip_ne_nil_of_read {depth : ℕ} {bs rest : List UInt8} {v : Value} (h : Value.read depth bs = .ok (v, rest)) :
    skip bs ≠ [] := by
  intro hskip
  cases depth with
  | zero =>
    rw [Value.read, hskip] at h
    cases h
  | succ depth =>
    rw [Value.read, hskip] at h
    cases h

/-- **A value is read alike however a text goes on** behind the octet at which the value ends. -/
theorem delimited_read (depth : ℕ) : Delimited (Value.read depth) := by
  induction depth with
  | zero =>
    intro bs v b rest ext h
    obtain ⟨c, cs, hskip⟩ := List.exists_cons_of_ne_nil (skip_ne_nil_of_read h)
    rw [read_zero hskip] at h
    rw [read_zero (skip_append hskip ext)]
    split_ifs at h ⊢
    · cases h
    · exact delimited_scalar ext h
  | succ depth ih =>
    intro bs v b rest ext h
    obtain ⟨c, cs, hskip⟩ := List.exists_cons_of_ne_nil (skip_ne_nil_of_read h)
    rw [read_succ depth hskip] at h
    rw [read_succ depth (skip_append hskip ext)]
    split_ifs at h ⊢
    · obtain ⟨vs, hread, rfl⟩ := mapValue_eq_ok_iff.1 h
      exact mapValue_eq_ok_iff.2 ⟨vs, selfDelimiting_items ih ext hread, rfl⟩
    · obtain ⟨ms, hread, rfl⟩ := mapValue_eq_ok_iff.1 h
      exact mapValue_eq_ok_iff.2 ⟨ms, selfDelimiting_members ih ext hread, rfl⟩
    · exact delimited_scalar ext h

/-- what is read from an opening brace on is read alike whatever stands behind its closing one -/
theorem read_append_of_brace {depth : ℕ} {bs cs rest : List UInt8} {v : Value} (hskip : skip bs = openBrace :: cs)
    (h : Value.read depth bs = .ok (v, rest)) (ext : List UInt8) :
    Value.read depth (bs ++ ext) = .ok (v, rest ++ ext) := by
  cases depth with
  | zero =>
    rw [read_zero hskip, if_pos (Or.inr rfl)] at h
    cases h
  | succ depth =>
    rw [read_succ depth hskip, if_neg (by decide), if_pos rfl] at h
    rw [read_succ depth (skip_append hskip ext), if_neg (by decide), if_pos rfl]
    obtain ⟨ms, hread, rfl⟩ := mapValue_eq_ok_iff.1 h
    exact mapValue_eq_ok_iff.2 ⟨ms, selfDelimiting_members (delimited_read depth) ext hread, rfl⟩

/-- an object begins with its opening brace -/
theorem exists_brace {depth : ℕ} {bs rest : List UInt8} {ms : List (String × Value)}
    (h : Value.read depth bs = .ok (.object ms, rest)) : ∃ cs, skip bs = openBrace :: cs := by
  obtain ⟨c, cs, hskip⟩ := List.exists_cons_of_ne_nil (skip_ne_nil_of_read h)
  refine ⟨cs, ?_⟩
  cases depth with
  | zero =>
    rw [read_zero hskip] at h
    split_ifs at h
    · cases h
    · cases members?_of_scalar h
  | succ depth =>
    rw [read_succ depth hskip] at h
    split_ifs at h with hbracket hbrace
    · obtain ⟨vs, -, hlist⟩ := mapValue_eq_ok_iff.1 h
      cases hlist
    · rw [hskip, hbrace]
    · cases members?_of_scalar h

/-! ## Documents -/

/-- an object and what stands behind it: a document with blanks, and with nothing else -/
theorem document_append_iff {bs : List UInt8} {ms : List (String × Value)} (h : document bs = .ok (.object ms))
    (ext : List UInt8) (v : Value) : document (bs ++ ext) = .ok v ↔ v = .object ms ∧ Blanks ext := by
  obtain ⟨rest, hread, hrest⟩ := document_eq_ok_iff.1 h
  obtain ⟨cs, hbrace⟩ := exists_brace hread
  have hext := read_append_of_brace hbrace hread ext
  rw [document_eq_ok_iff]
  constructor
  · rintro ⟨rest', hread', hrest'⟩
    rw [hext] at hread'
    obtain ⟨rfl, rfl⟩ := Prod.mk.inj (Except.ok.inj hread')
    exact ⟨rfl, (blanks_append.1 hrest').2⟩
  · rintro ⟨rfl, hblanks⟩
    exact ⟨rest ++ ext, hext, blanks_append.2 ⟨hrest, hblanks⟩⟩

/-- what is missing at the end of a document cut short are blanks, if there is still a document -/
theorem blanks_of_prefix {bs ext : List UInt8} {v : Value} {ms : List (String × Value)}
    (hshort : document bs = .ok v) (h : document (bs ++ ext) = .ok (.object ms)) : Blanks ext := by
  obtain ⟨rest, hread, -⟩ := document_eq_ok_iff.1 hshort
  obtain ⟨rest', hread', hrest'⟩ := document_eq_ok_iff.1 h
  obtain ⟨c, cs, hskip⟩ := List.exists_cons_of_ne_nil (skip_ne_nil_of_read hread)
  -- both texts begin with the same octet, and the longer one begins with a brace
  obtain ⟨cs', hbrace⟩ := exists_brace hread'
  rw [skip_append hskip ext] at hbrace
  obtain rfl : c = openBrace := (List.cons.inj hbrace).1
  rw [read_append_of_brace hskip hread ext] at hread'
  obtain ⟨-, rfl⟩ := Prod.mk.inj (Except.ok.inj hread')
  exact (blanks_append.1 hrest').2

end CredentialFailover.Json
