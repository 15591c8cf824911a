/-
Routing numbers are the exact integer of their digits, held once to the bounds.

The digits are taken in one by one, each with saturation. Saturating at every step and saturating once at the end come to
the same (`foldl_push`): a value that has left the bounds has left them on the side of its sign, and every further digit
leads further away.

Main facts: `leading_toString` (a number in the bounds is read back from its decimal form), `leading_mem`, and
`leading_of_front` (the number at the front of any text).
-/
import CredentialFailover.Credential.Export
import CredentialFailover.Credential.RoutingNumber
import CredentialFailover.Proofs.Text.Cutting
import CredentialFailover.Proofs.Text.Decimal

namespace CredentialFailover.RoutingNumber

/-- a magnitude with its sign -/
def signed (negative : Bool) (n : ℕ) : ℤ := if negative then -n else n

theorem saturate_mem (n : ℤ) : least ≤ saturate n ∧ saturate n ≤ greatest := by
  unfold saturate least greatest
  split_ifs <;> constructor <;> omega

theorem saturate_of_mem {n : ℤ} (hl : least ≤ n) (hg : n ≤ greatest) : saturate n = n := by
  rw [saturate, if_neg (not_lt.2 hl), if_neg (not_lt.2 hg)]

theorem saturate_eq (n : ℤ) : saturate n = max (-2 ^ 63) (min n (2 ^ 63 - 1)) := by
  unfold saturate least greatest
  split_ifs <;> omega

/-- a value that has left the bounds is led further away by the next step -/
theorem saturate_saturate_add {n d : ℤ} (h : 0 ≤ n ∧ 0 ≤ d ∨ n ≤ 0 ∧ d ≤ 0) :
    saturate (saturate n + d) = saturate (n + d) := by
  simp only [saturate_eq]
  omega

theorem saturate_saturate_mul (n : ℤ) : saturate (saturate n * 10) = saturate (n * 10) := by
  simp only [saturate_eq]
  omega

theorem push_eq (negative : Bool) (n : ℤ) (c : Char) :
    push negative n c = saturate (saturate (n * 10) + signed negative (c.toNat - '0'.toNat)) := by
  cases negative <;> rfl

/-- one more digit of a saturated value is one more digit of the exact one -/
theorem push_saturate (negative : Bool) (n : ℕ) (c : Char) :
    push negative (saturate (signed negative n)) c = saturate (signed negative (10 * n + (c.toNat - '0'.toNat))) := by
  calc push negative (saturate (signed negative n)) c
      = saturate (saturate (saturate (signed negative n) * 10) + signed negative (c.toNat - '0'.toNat)) := push_eq ..
    _ = saturate (saturate (signed negative n * 10) + signed negative (c.toNat - '0'.toNat)) := by
      rw [saturate_saturate_mul]
    _ = saturate (signed negative n * 10 + signed negative (c.toNat - '0'.toNat)) := by
      refine saturate_saturate_add ?_
      cases negative <;> simp [signed]
    _ = saturate (signed negative (10 * n + (c.toNat - '0'.toNat))) := by
      congr 1
      cases negative <;> simp only [signed, if_true, Bool.false_eq_true, if_false] <;> push_cast <;> ring

/-- **Saturating digit by digit is saturating once.** -/
theorem foldl_push (negative : Bool) (cs : List Char) (n : ℕ) :
    cs.foldl (push negative) (saturate (signed negative n)) = saturate (signed negative (Nat.ofDigitChars 10 cs n)) := by
  induction cs generalizing n with
  | nil => simp
  | cons c cs ih => rw [List.foldl_cons, push_saturate, ih, Nat.ofDigitChars_cons]

theorem foldl_push_zero (negative : Bool) (cs : List Char) :
    cs.foldl (push negative) 0 = saturate (signed negative (Nat.ofDigitChars 10 cs 0)) := by
  have hzero : saturate (signed negative 0) = 0 := by cases negative <;> rfl
  rw [← foldl_push, hzero]

/-- what follows blanks and a sign is the exact integer of its digits, held once to the bounds -/
theorem leading_of_sign {raw : String} {negative : Bool} {cs : List Char}
    (h : sign (raw.toList.dropWhile Text.isBlank) = (negative, cs)) :
    leading raw = saturate (signed negative (Nat.ofDigitChars 10 (cs.takeWhile Char.isDigit) 0)) := by
  simp only [leading, h, foldl_push_zero]

/-- a number is within the bounds, whatever text it was read from -/
theorem leading_mem (raw : String) : least ≤ leading raw ∧ leading raw ≤ greatest := by
  rw [leading_of_sign rfl]
  exact saturate_mem _

/-! ## Numbers in decimal form -/

theorem isBlank_of_isDigit {c : Char} (h : c.isDigit = true) : Text.isBlank c = false := by
  have hrange := Text.isDigit_iff.1 h
  simp only [Text.isBlank, Bool.or_eq_false_iff, Bool.and_eq_false_iff, decide_eq_false_iff_not, beq_eq_false_iff_ne]
  omega

/-- digits have no sign in front of them -/
theorem sign_of_isDigit {c : Char} {cs : List Char} (h : c.isDigit = true) : sign (c :: cs) = (false, c :: cs) := by
  unfold sign
  split
  · rename_i heq
    obtain ⟨rfl, -⟩ := List.cons.inj heq
    exact absurd h (by decide)
  · rename_i heq
    obtain ⟨rfl, -⟩ := List.cons.inj heq
    exact absurd h (by decide)
  · rfl

theorem sign_toDigits (n : ℕ) :
    sign ((Nat.toDigits 10 n).dropWhile Text.isBlank) = (false, Nat.toDigits 10 n) := by
  obtain ⟨c, cs, hcs⟩ := List.exists_cons_of_ne_nil (Nat.toDigits_ne_nil (n := n) (b := 10))
  have hc : c.isDigit = true := Text.isDigit_of_mem_toDigits (n := n) (hcs ▸ List.mem_cons_self ..)
  rw [hcs, List.dropWhile_cons_of_neg (by simp [isBlank_of_isDigit hc]), sign_of_isDigit hc]

theorem sign_minus (n : ℕ) :
    sign (('-' :: Nat.toDigits 10 n).dropWhile Text.isBlank) = (true, Nat.toDigits 10 n) := by
  rw [List.dropWhile_cons_of_neg (by decide)]
  rfl

/-- **A number in the bounds is read back from its decimal form**, the bounds included. -/
theorem leading_toString {n : ℤ} (hl : least ≤ n) (hg : n ≤ greatest) : leading (toString n) = n := by
  rcases lt_or_ge n 0 with hneg | hpos
  · have hsign : sign ((toString n).toList.dropWhile Text.isBlank) = (true, Nat.toDigits 10 n.natAbs) := by
      rw [Text.toList_toString_of_neg hneg, sign_minus]
    have hn : signed true n.natAbs = n := by simp only [signed, if_true]; omega
    calc leading (toString n)
        = saturate (signed true (Nat.ofDigitChars 10 ((Nat.toDigits 10 n.natAbs).takeWhile Char.isDigit) 0)) :=
          leading_of_sign hsign
      _ = saturate n := by rw [Text.takeWhile_isDigit_toDigits, Nat.ofDigitChars_ten_toDigits, hn]
      _ = n := saturate_of_mem hl hg
  · have hsign : sign ((toString n).toList.dropWhile Text.isBlank) = (false, Nat.toDigits 10 n.natAbs) := by
      rw [Text.toList_toString_of_nonneg hpos, sign_toDigits]
    have hn : signed false n.natAbs = n := by simp only [signed, Bool.false_eq_true, if_false]; omega
    calc leading (toString n)
        = saturate (signed false (Nat.ofDigitChars 10 ((Nat.toDigits 10 n.natAbs).takeWhile Char.isDigit) 0)) :=
          leading_of_sign hsign
      _ = saturate n := by rw [Text.takeWhile_isDigit_toDigits, Nat.ofDigitChars_ten_toDigits, hn]
      _ = n := saturate_of_mem hl hg

/-! ## The integer at the front of a text -/

/-- what a text begins with: blanks, a sign or none, and all the digits that follow -/
structure Front (blanks mark digits rest cs : List Char) : Prop where
  split : cs = blanks ++ (mark ++ (digits ++ rest))
  blank : ∀ c ∈ blanks, Text.isBlank c = true
  noBlank : ∀ c ∈ (mark ++ (digits ++ rest)).head?, Text.isBlank c = false
  mark : mark = ['-'] ∨ mark = ['+'] ∨ mark = [] ∧ ∀ c ∈ (digits ++ rest).head?, c ≠ '-' ∧ c ≠ '+'
  digit : ∀ c ∈ digits, c.isDigit = true
  noDigit : ∀ c ∈ rest.head?, c.isDigit = false

/-- the integer that a sign and digits denote, however many digits there are -/
def denoted (mark digits : List Char) : ℤ :=
  if mark = ['-'] then -(Nat.ofDigitChars 10 digits 0 : ℤ) else Nat.ofDigitChars 10 digits 0

/-- a sign is taken off, if there is one -/
theorem sign_append {mark cs : List Char}
    (h : mark = ['-'] ∨ mark = ['+'] ∨ mark = [] ∧ ∀ c ∈ cs.head?, c ≠ '-' ∧ c ≠ '+') :
    sign (mark ++ cs) = (decide (mark = ['-']), cs) := by
  rcases h with rfl | rfl | ⟨rfl, hfirst⟩
  · rfl
  · rfl
  · rw [List.nil_append]
    unfold sign
    split
    · exact absurd rfl (hfirst '-' rfl).1
    · exact absurd rfl (hfirst '+' rfl).2
    · rfl

theorem exists_sign (cs : List Char) :
    ∃ mark behind, cs = mark ++ behind ∧
      (mark = ['-'] ∨ mark = ['+'] ∨ mark = [] ∧ ∀ c ∈ behind.head?, c ≠ '-' ∧ c ≠ '+') := by
  by_cases hminus : cs.head? = some '-'
  · obtain ⟨behind, rfl⟩ := List.head?_eq_some_iff.1 hminus
    exact ⟨['-'], behind, rfl, Or.inl rfl⟩
  · by_cases hplus : cs.head? = some '+'
    · obtain ⟨behind, rfl⟩ := List.head?_eq_some_iff.1 hplus
      exact ⟨['+'], behind, rfl, Or.inr (Or.inl rfl)⟩
    · refine ⟨[], cs, rfl, Or.inr (Or.inr ⟨rfl, ?_⟩)⟩
      intro c hc
      constructor
      · rintro rfl
        exact hminus hc
      · rintro rfl
        exact hplus hc

theorem exists_front (cs : List Char) : ∃ blanks mark digits rest, Front blanks mark digits rest cs := by
  obtain ⟨mark, behind, hsplit, hmark⟩ := exists_sign (cs.dropWhile Text.isBlank)
  have hdigits : behind.takeWhile Char.isDigit ++ behind.dropWhile Char.isDigit = behind :=
    List.takeWhile_append_dropWhile
  refine ⟨cs.takeWhile Text.isBlank, mark, behind.takeWhile Char.isDigit, behind.dropWhile Char.isDigit, ?_⟩
  constructor
  · rw [hdigits, ← hsplit, List.takeWhile_append_dropWhile]
  · exact fun c hc => List.mem_takeWhile_imp hc
  · rw [hdigits, ← hsplit]
    exact fun c hc => Text.head?_dropWhile hc
  · rwa [hdigits]
  · exact fun c hc => List.mem_takeWhile_imp hc
  · exact fun c hc => Text.head?_dropWhile hc

/-- the digits are found behind the blanks and the sign -/
theorem leading_of_split {raw : String} {blanks mark digits rest : List Char}
    (h : Front blanks mark digits rest raw.toList) :
    leading raw = digits.foldl (push (decide (mark = ['-']))) 0 := by
  have hblanks : raw.toList.dropWhile Text.isBlank = mark ++ (digits ++ rest) := by
    rw [h.split]
    exact (Text.span_append h.blank h.noBlank).2
  have hdigits : (digits ++ rest).takeWhile Char.isDigit = digits := (Text.span_append h.digit h.noDigit).1
  simp only [leading, hblanks, sign_append h.mark, hdigits]

theorem foldl_push_denoted (mark digits : List Char) :
    digits.foldl (push (decide (mark = ['-']))) 0 = max (-2 ^ 63) (min (denoted mark digits) (2 ^ 63 - 1)) := by
  rw [foldl_push_zero, saturate_eq, denoted]
  by_cases hmark : mark = ['-'] <;> simp [signed, hmark]

/-- **The number at the front of a text is the integer denoted there, held once to 64 bits.** No value on the way leaves
the bounds, what stands behind the digits does not matter, and the number that a credential exports is read back. -/
theorem leading_of_front (raw : String) :
    (∃ blanks mark digits rest, Front blanks mark digits rest raw.toList) ∧
      (∀ blanks mark digits rest, Front blanks mark digits rest raw.toList →
        leading raw = max (-2 ^ 63) (min (denoted mark digits) (2 ^ 63 - 1)) ∧
          (∀ taken, taken <+: digits →
            -2 ^ 63 ≤ taken.foldl (push (decide (mark = ['-']))) 0 ∧
              taken.foldl (push (decide (mark = ['-']))) 0 < 2 ^ 63) ∧
          ∀ (other : String) (rest' : List Char), Front blanks mark digits rest' other.toList →
            leading other = leading raw) ∧
      ∀ c : Credential, -2 ^ 63 ≤ c.routing → c.routing < 2 ^ 63 → leading (c.header .routing) = c.routing := by
  refine ⟨exists_front _, ?_, ?_⟩
  · intro blanks mark digits rest h
    refine ⟨?_, ?_, ?_⟩
    · rw [leading_of_split h, foldl_push_denoted]
    · intro taken _
      rw [foldl_push_denoted]
      omega
    · intro other rest' hother
      rw [leading_of_split h, leading_of_split hother]
  · intro c hleast hmost
    exact leading_toString hleast (by unfold greatest; omega)

/-- one below the least number, behind two blanks of different kinds and in front of more -/
theorem leading_of_front_least :
    leading "\u2003\t-0009223372036854775809" = -9223372036854775808 ∧
      leading "\u2003\t-0009223372036854775809.5-7" = -9223372036854775808 := by
  have hblanks : ∀ c ∈ ['\u2003', '\t'], Text.isBlank c = true := List.all_eq_true.1 (by decide)
  have hdigits : ∀ c ∈ "0009223372036854775809".toList, c.isDigit = true := List.all_eq_true.1 (by decide +kernel)
  have hfront : Front ['\u2003', '\t'] ['-'] "0009223372036854775809".toList []
      "\u2003\t-0009223372036854775809".toList :=
    ⟨by decide +kernel, hblanks, by simp; decide, Or.inl rfl, hdigits, by simp⟩
  have hmore : Front ['\u2003', '\t'] ['-'] "0009223372036854775809".toList ".5-7".toList
      "\u2003\t-0009223372036854775809.5-7".toList :=
    ⟨by decide +kernel, hblanks, by simp; decide, Or.inl rfl, hdigits, by simp⟩
  obtain ⟨hvalue, -, hrest⟩ := (leading_of_front "\u2003\t-0009223372036854775809").2.1 _ _ _ _ hfront
  have hleast : leading "\u2003\t-0009223372036854775809" = -9223372036854775808 := hvalue.trans (by decide)
  exact ⟨hleast, (hrest _ _ hmore).trans hleast⟩

end CredentialFailover.RoutingNumber
