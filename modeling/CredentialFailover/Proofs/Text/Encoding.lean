/-
UTF-8 read back: the octets of a text are decoded to its characters.

The octets of one character take the machine from the ground to the ground and give that character, whatever follows
(`run_encodeChar`). The first octet decides how many are owed and how the next one is bounded; every other octet brings
six bits. A whole text follows character by character.

Main facts: `decode_encode_append` (the octets of a text, in front of any others) and `decode?_encode`.
-/
import Mathlib.Tactic
import CredentialFailover.Text.Utf8

namespace CredentialFailover.Utf8

/-! ## Single octets -/

theorem toNat_ofNat {n : ℕ} (h : n < 256) : (UInt8.ofNat n).toNat = n := UInt8.toNat_ofNat_of_lt h

/-- a first octet, by its value -/
theorem begin_ofNat {n : ℕ} (h : n < 256) :
    begin (UInt8.ofNat n) =
      if n < 0x80 then ([some (Char.ofNat n)], .ground)
      else if 0xC2 ≤ n ∧ n ≤ 0xDF then ([], .partway 0 0x80 0xBF (n - 0xC0))
      else if n = 0xE0 then ([], .partway 1 0xA0 0xBF 0)
      else if n = 0xED then ([], .partway 1 0x80 0x9F 0xD)
      else if 0xE1 ≤ n ∧ n ≤ 0xEF then ([], .partway 1 0x80 0xBF (n - 0xE0))
      else if n = 0xF0 then ([], .partway 2 0x90 0xBF 0)
      else if 0xF1 ≤ n ∧ n ≤ 0xF3 then ([], .partway 2 0x80 0xBF (n - 0xF0))
      else if n = 0xF4 then ([], .partway 2 0x80 0x8F 4)
      else ([none], .ground) := by
  simp only [begin, UInt8.lt_iff_toNat_lt, UInt8.le_iff_toNat_le, beq_iff_eq, ← UInt8.toNat_inj, toNat_ofNat h,
    Bool.and_eq_true, decide_eq_true_eq]
  rfl

/-- an octet within the bounds of the state: six more bits, and the character if no octet is owed -/
theorem step_ofNat {owed bits n : ℕ} {low high : UInt8} (h : n < 256) (hlow : low.toNat ≤ n) (hhigh : n ≤ high.toNat) :
    step (.partway owed low high bits) (UInt8.ofNat n) =
      match owed with
      | 0 => ([some (Char.ofNat (bits * 64 + (n - 0x80)))], .ground)
      | owed + 1 => ([], .partway owed 0x80 0xBF (bits * 64 + (n - 0x80))) := by
  have hl : low ≤ UInt8.ofNat n := by rw [UInt8.le_iff_toNat_le, toNat_ofNat h]; exact hlow
  have hh : UInt8.ofNat n ≤ high := by rw [UInt8.le_iff_toNat_le, toNat_ofNat h]; exact hhigh
  cases owed <;> simp only [step, hl, hh, toNat_ofNat h, decide_true, Bool.and_self, ite_true]

theorem run_cons (st : State) (b : UInt8) (bs : List UInt8) : run st (b :: bs) = (step st b).1 ++ run (step st b).2 bs := by
  cases st <;> rfl

/-! ## Whole characters -/

/-- the first of three octets bounds the second one so that it fits every code point but the surrogates -/
theorem begin_of_three {v : ℕ} (hleast : 0x800 ≤ v) (hmost : v ≤ 0xFFFF) (hplain : v < 0xD800 ∨ 0xDFFF < v) :
    ∃ low high : UInt8, begin (UInt8.ofNat (v / 4096 % 16 + 0xE0)) = ([], .partway 1 low high (v / 4096)) ∧
      low.toNat ≤ v / 64 % 64 + 0x80 ∧ v / 64 % 64 + 0x80 ≤ high.toNat := by
  rw [begin_ofNat (by omega), if_neg (by omega), if_neg (by omega)]
  by_cases h0 : v / 4096 = 0
  · rw [if_pos (by omega)]
    have hmid : 0xA0 ≤ v / 64 % 64 + 0x80 ∧ v / 64 % 64 + 0x80 ≤ 0xBF := by omega
    exact ⟨0xA0, 0xBF, by rw [h0], hmid⟩
  · rw [if_neg (by omega)]
    by_cases hd : v / 4096 = 0xD
    · rw [if_pos (by omega)]
      have hmid : 0x80 ≤ v / 64 % 64 + 0x80 ∧ v / 64 % 64 + 0x80 ≤ 0x9F := by omega
      exact ⟨0x80, 0x9F, by rw [hd], hmid⟩
    · rw [if_neg (by omega), if_pos (by omega)]
      have hmid : 0x80 ≤ v / 64 % 64 + 0x80 ∧ v / 64 % 64 + 0x80 ≤ 0xBF := by omega
      exact ⟨0x80, 0xBF, by rw [show v / 4096 % 16 + 0xE0 - 0xE0 = v / 4096 by omega], hmid⟩

/-- the first of four octets bounds the second one so that it fits every code point beyond the basic plane -/
theorem begin_of_four {v : ℕ} (hleast : 0x10000 ≤ v) (hmost : v < 0x110000) :
    ∃ low high : UInt8, begin (UInt8.ofNat (v / 262144 % 8 + 0xF0)) = ([], .partway 2 low high (v / 262144)) ∧
      low.toNat ≤ v / 4096 % 64 + 0x80 ∧ v / 4096 % 64 + 0x80 ≤ high.toNat := by
  rw [begin_ofNat (by omega), if_neg (by omega), if_neg (by omega), if_neg (by omega), if_neg (by omega),
    if_neg (by omega)]
  by_cases h0 : v / 262144 = 0
  · rw [if_pos (by omega)]
    have hmid : 0x90 ≤ v / 4096 % 64 + 0x80 ∧ v / 4096 % 64 + 0x80 ≤ 0xBF := by omega
    exact ⟨0x90, 0xBF, by rw [h0], hmid⟩
  · rw [if_neg (by omega)]
    by_cases h4 : v / 262144 = 4
    · rw [if_neg (by omega), if_pos (by omega)]
      have hmid : 0x80 ≤ v / 4096 % 64 + 0x80 ∧ v / 4096 % 64 + 0x80 ≤ 0x8F := by omega
      exact ⟨0x80, 0x8F, by rw [h4], hmid⟩
    · rw [if_pos (by omega)]
      have hmid : 0x80 ≤ v / 4096 % 64 + 0x80 ∧ v / 4096 % 64 + 0x80 ≤ 0xBF := by omega
      exact ⟨0x80, 0xBF, by rw [show v / 262144 % 8 + 0xF0 - 0xF0 = v / 262144 by omega], hmid⟩

/-- an octet that brings the last six bits of a character -/
theorem run_last {c : Char} {bits n : ℕ} (hn : n < 64) (hc : bits * 64 + n = c.toNat) (rest : List UInt8) :
    run (.partway 0 0x80 0xBF bits) (UInt8.ofNat (n + 0x80) :: rest) = some c :: run .ground rest := by
  rw [run_cons, step_ofNat (by omega) (by simp) (by simp; omega), Nat.add_sub_cancel, hc, Char.ofNat_toNat]
  rfl

/-- the octets of a character give it, whatever follows -/
theorem run_encodeChar (c : Char) (rest : List UInt8) :
    run .ground (String.utf8EncodeChar c ++ rest) = some c :: run .ground rest := by
  have hvalid : c.toNat < 0xD800 ∨ (0xDFFF < c.toNat ∧ c.toNat < 0x110000) := c.valid
  simp only [String.utf8EncodeChar, Char.toNat_val]
  generalize hv : c.toNat = v at hvalid ⊢
  split_ifs with h1 h2 h3 <;> simp only [List.cons_append, List.nil_append]
  · rw [run_cons, step, begin_ofNat (by omega), if_pos (by omega), ← hv, Char.ofNat_toNat]
    rfl
  · rw [run_cons, step, begin_ofNat (by omega), if_neg (by omega), if_pos (by omega), List.nil_append]
    exact run_last (by omega) (by omega) rest
  · obtain ⟨low, high, hbegin, hlow, hhigh⟩ := begin_of_three (v := v) (by omega) (by omega) (by omega)
    rw [run_cons, step, hbegin, List.nil_append, run_cons, step_ofNat (by omega) hlow hhigh]
    exact run_last (by omega) (by omega) rest
  · obtain ⟨low, high, hbegin, hlow, hhigh⟩ := begin_of_four (v := v) (by omega) (by omega)
    rw [run_cons, step, hbegin, List.nil_append, run_cons, step_ofNat (by omega) hlow hhigh, List.nil_append, run_cons,
      step_ofNat (by omega) (by simp) (by simp; omega)]
    exact run_last (by omega) (by omega) rest

/-! ## Whole texts -/

/-- the octets of a text, in front of any others, are decoded to its characters -/
theorem decode_encode_append (cs : List Char) (rest : List UInt8) :
    decode (encode cs ++ rest) = cs.map some ++ decode rest := by
  induction cs with
  | nil => rfl
  | cons c cs ih =>
    simp only [encode, List.flatMap_cons, List.append_assoc, List.map_cons, List.cons_append] at ih ⊢
    rw [decode, run_encodeChar, ← ih]
    rfl

theorem decode_encode (cs : List Char) : decode (encode cs) = cs.map some := by
  simpa [decode, run] using decode_encode_append cs []

theorem wellFormed?_map_some (cs : List Char) : wellFormed? (cs.map some) = some cs := by
  induction cs with
  | nil => rfl
  | cons c cs ih => simp [wellFormed?, ih]

/-- the octets of a text are well-formed, and the text is read from them -/
theorem decode?_encode (cs : List Char) : decode? (encode cs) = some (String.ofList cs) := by
  simp [decode?, decode_encode, wellFormed?_map_some]

theorem encode_append (as bs : List Char) : encode (as ++ bs) = encode as ++ encode bs := by
  simp [encode]

end CredentialFailover.Utf8
