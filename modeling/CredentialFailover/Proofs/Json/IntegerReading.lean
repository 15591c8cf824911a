/-
An integer is read from its decimal form.

The digits end where what follows closes the value, so all of them are gathered and there is room for each: the significand
is the integer's magnitude, and the magnitude fits 64 bits with its sign.

Main fact: `number_toString`.
-/
import CredentialFailover.Json.Reader
import CredentialFailover.Proofs.Text.Cutting
import CredentialFailover.Proofs.Text.Decimal
import CredentialFailover.Proofs.Text.Encoding

namespace CredentialFailover.Json

open Ascii

/-- nothing, or an octet that cannot continue a value -/
def Closes (rest : List UInt8) : Prop :=
  ∀ b ∈ rest.head?, isSpace b = true ∨ b = comma ∨ b = closeBracket ∨ b = closeBrace

theorem closes_cons {b : UInt8} (rest : List UInt8)
    (h : isSpace b = true ∨ b = comma ∨ b = closeBracket ∨ b = closeBrace) : Closes (b :: rest) := by
  intro c hc
  rw [List.head?_cons, Option.mem_some_iff] at hc
  exact hc ▸ h

/-- what closes a value is no digit, no point and no exponent -/
theorem Closes.ne {b : UInt8} {rest : List UInt8} (h : Closes (b :: rest)) :
    isDigit b = false ∧ b ≠ dot ∧ b ≠ lowerE ∧ b ≠ upperE := by
  have hb := h b rfl
  simp only [isSpace, Bool.or_eq_true, beq_iff_eq] at hb
  rcases hb with ((((rfl | rfl) | rfl) | rfl) | rfl | rfl | rfl) <;> decide

/-! ## Digits -/

theorem encode_digits {cs : List Char} (h : ∀ c ∈ cs, c.isDigit = true) :
    Utf8.encode cs = cs.map fun c => c.toNat.toUInt8 := by
  refine Utf8.encode_of_ascii fun c hc => ?_
  have := Text.isDigit_iff.1 (h c hc)
  omega

theorem toNat_of_isDigit {c : Char} (h : c.isDigit = true) : c.toNat.toUInt8.toNat = c.toNat := by
  have := Text.isDigit_iff.1 h
  simp only [UInt8.toNat_ofNat']
  omega

theorem isDigit_octet {c : Char} (h : c.isDigit = true) : isDigit c.toNat.toUInt8 = true := by
  have hrange := Text.isDigit_iff.1 h
  simp only [isDigit, UInt8.le_iff_toNat_le, toNat_of_isDigit h, Bool.and_eq_true, decide_eq_true_eq]
  exact hrange

theorem digit_octet {c : Char} (h : c.isDigit = true) : digit c.toNat.toUInt8 = c.toNat - '0'.toNat := by
  rw [digit, toNat_of_isDigit h]
  rfl

theorem le_ofDigitChars (cs : List Char) (n : ℕ) : n ≤ Nat.ofDigitChars 10 cs n := by
  induction cs generalizing n with
  | nil => simp
  | cons c cs ih =>
    rw [Nat.ofDigitChars_cons]
    have := ih (10 * n + (c.toNat - '0'.toNat))
    omega

/-- there is room for every digit of a number that fits -/
theorem absorb_digits {cs : List Char} (hcs : ∀ c ∈ cs, c.isDigit = true) {n : ℕ}
    (h : Nat.ofDigitChars 10 cs n ≤ maxSignificand) :
    absorb n (cs.map fun c => c.toNat.toUInt8) = (Nat.ofDigitChars 10 cs n, 0) := by
  induction cs generalizing n with
  | nil => simp [absorb]
  | cons c cs ih =>
    rw [Nat.ofDigitChars_cons] at h ⊢
    have hpush : n * 10 + digit c.toNat.toUInt8 = 10 * n + (c.toNat - '0'.toNat) := by
      rw [digit_octet (hcs c (List.mem_cons_self ..)), Nat.mul_comm]
    have hroom : n * 10 + digit c.toNat.toUInt8 ≤ maxSignificand := by
      rw [hpush]
      exact (le_ofDigitChars cs _).trans h
    rw [List.map_cons, absorb, if_pos hroom, hpush]
    exact ih (fun d hd => hcs d (List.mem_cons_of_mem _ hd)) h

/-! ## Integers -/

/-- an integer part is the whole number when what follows closes the value -/
theorem afterInteger_of_closes (negative : Bool) (n : ℕ) {rest : List UInt8} (h : Closes rest) :
    afterInteger negative n 0 rest = .ok (whole negative n, rest) := by
  cases rest with
  | nil => rfl
  | cons b rest =>
    obtain ⟨-, hdot, hlower, hupper⟩ := h.ne
    unfold afterInteger
    split <;> simp_all

/-- the digits of a number are taken up to what closes the value -/
theorem takeWhile_digits {cs : List Char} (hcs : ∀ c ∈ cs, c.isDigit = true) {rest : List UInt8} (h : Closes rest) :
    ((cs.map fun c => c.toNat.toUInt8) ++ rest).takeWhile isDigit = (cs.map fun c => c.toNat.toUInt8) ∧
      ((cs.map fun c => c.toNat.toUInt8) ++ rest).dropWhile isDigit = rest := by
  have hall : ∀ b ∈ cs.map fun c => c.toNat.toUInt8, isDigit b = true := by
    intro b hb
    obtain ⟨c, hc, rfl⟩ := List.mem_map.1 hb
    exact isDigit_octet (hcs c hc)
  refine Text.span_append hall ?_
  intro b hb
  obtain ⟨rest, rfl⟩ := List.head?_eq_some_iff.1 hb
  exact h.ne.1

theorem unsignedNumber_toDigits (negative : Bool) {n : ℕ} (hn : n ≤ maxSignificand) {rest : List UInt8}
    (h : Closes rest) :
    unsignedNumber negative (Utf8.encode (Nat.toDigits 10 n) ++ rest) = .ok (whole negative n, rest) := by
  have hdigits : ∀ c ∈ Nat.toDigits 10 n, c.isDigit = true := fun c hc => Text.isDigit_of_mem_toDigits hc
  rw [encode_digits hdigits]
  rcases Nat.eq_zero_or_pos n with rfl | hpos
  · cases rest with
    | nil => exact afterInteger_of_closes negative 0 h
    | cons b rest =>
      have hb : isDigit b = false := h.ne.1
      have hread : unsignedNumber negative (zero :: b :: rest) = afterInteger negative 0 0 (b :: rest) := by
        simp [unsignedNumber, hb]
      exact hread.trans (afterInteger_of_closes negative 0 h)
  · obtain ⟨c, cs, hcs, hc⟩ := Text.exists_toDigits hpos
    have hvalue : Nat.ofDigitChars 10 (c :: cs) 0 = n := by rw [← hcs, Nat.ofDigitChars_ten_toDigits]
    rw [hcs] at hdigits ⊢
    have hhead : c.isDigit = true := hdigits c (List.mem_cons_self ..)
    have hzero : (c.toNat.toUInt8 == zero) = false := by
      refine beq_eq_false_iff_ne.2 fun heq => hc (Char.toNat_inj.1 ?_)
      rw [← toNat_of_isDigit hhead, heq]
      rfl
    obtain ⟨htake, hdrop⟩ := takeWhile_digits (fun d hd => hdigits d (List.mem_cons_of_mem _ hd)) h
    have habsorb := absorb_digits hdigits (n := 0) (hvalue ▸ hn)
    rw [hvalue, List.map_cons] at habsorb
    simp only [List.map_cons, List.cons_append, unsignedNumber, hzero, isDigit_octet hhead, htake, hdrop, habsorb,
      Bool.false_eq_true, if_false, if_true]
    exact afterInteger_of_closes negative n h

/-- **An integer of 64 bits is read back from its decimal form**, in front of anything that closes a value. -/
theorem number_toString {n : ℤ} (hleast : -2 ^ 63 ≤ n) (hmost : n < 2 ^ 64) {rest : List UInt8} (h : Closes rest) :
    number (Utf8.bytes (toString n) ++ rest) = .ok (.integer n, rest) := by
  have hroom : n.natAbs ≤ maxSignificand := by
    simp only [maxSignificand]
    omega
  rcases lt_or_ge n 0 with hneg | hpos
  · have hread : number (Utf8.bytes (toString n) ++ rest) =
        unsignedNumber true (Utf8.encode (Nat.toDigits 10 n.natAbs) ++ rest) := by
      rw [Utf8.bytes, Text.toList_toString_of_neg hneg]
      rfl
    have hwhole : whole true n.natAbs = .integer n := by
      have hsmall : ¬(n.natAbs = 0 ∨ maxNegative < n.natAbs) := by
        simp only [maxNegative]
        omega
      have hvalue : -(n.natAbs : ℤ) = n := by omega
      rw [whole, if_pos rfl, if_neg hsmall, hvalue]
    rw [hread, unsignedNumber_toDigits true hroom h, hwhole]
  · have hread : number (Utf8.bytes (toString n) ++ rest) =
        unsignedNumber false (Utf8.encode (Nat.toDigits 10 n.natAbs) ++ rest) := by
      rw [Utf8.bytes, Text.toList_toString_of_nonneg hpos]
      obtain ⟨c, cs, hcs⟩ := List.exists_cons_of_ne_nil (Nat.toDigits_ne_nil (n := n.natAbs) (b := 10))
      have hdigits : ∀ d ∈ Nat.toDigits 10 n.natAbs, d.isDigit = true := fun d hd => Text.isDigit_of_mem_toDigits hd
      have hminus : c.toNat.toUInt8 ≠ minus := by
        have hc := isDigit_octet (hdigits c (hcs ▸ List.mem_cons_self ..))
        intro heq
        rw [heq] at hc
        exact absurd hc (by decide)
      rw [encode_digits hdigits, hcs, List.map_cons, List.cons_append]
      unfold number
      split
      · rename_i heq
        exact absurd (List.cons.inj heq).1 hminus
      · rfl
    have hwhole : whole false n.natAbs = .integer n := by
      have hvalue : (n.natAbs : ℤ) = n := by omega
      rw [whole, if_neg (by decide), hvalue]
    rw [hread, unsignedNumber_toDigits false hroom h, hwhole]

end CredentialFailover.Json
