/-
Client times are read back from their written form.

Every field is written at full width, so that reading takes off as many digits as were written. The fields of a time name
an existing second, which is why nothing read back can be refused.

Main fact: `parse?_text`.
-/
import Mathlib.Tactic
import CredentialFailover.Credential.ClientTime

namespace CredentialFailover

namespace Text

/-- one digit in front of those still to be read -/
theorem digits?_digitChar {count value d : ℕ} (h : d < 10) (cs : List Char) :
    digits? (count + 1) value (Nat.digitChar d :: cs) = digits? count (value * 10 + d) cs := by
  have hdigit : (Nat.digitChar d).isDigit = true := by simp [Nat.isDigit_digitChar, h]
  have hvalue : (Nat.digitChar d).toNat - '0'.toNat = d := Nat.toNat_digitChar_sub_48_of_lt_ten h
  rw [digits?, if_pos hdigit, hvalue]

theorem expect?_cons (c : Char) (cs : List Char) : expect? c (c :: cs) = some cs := expect?_eq_some_iff.2 rfl

end Text

theorem Calendar.daysInMonth_le (year month : ℕ) : Calendar.daysInMonth year month ≤ 31 := by
  unfold Calendar.daysInMonth
  repeat' split
  all_goals decide

namespace ClientTime

theorem digits?_two {n : ℕ} (h : n ≤ 99) (cs : List Char) : Text.digits? 2 0 (two n ++ cs) = some (n, cs) := by
  simp only [two, List.cons_append, List.nil_append]
  rw [Text.digits?_digitChar (by omega), Text.digits?_digitChar (by omega), Text.digits?]
  congr 2
  omega

theorem digits?_four {n : ℕ} (h : n ≤ 9999) (cs : List Char) : Text.digits? 4 0 (four n ++ cs) = some (n, cs) := by
  simp only [four, two, List.cons_append, List.nil_append]
  rw [Text.digits?_digitChar (by omega), Text.digits?_digitChar (by omega), Text.digits?_digitChar (by omega),
    Text.digits?_digitChar (by omega), Text.digits?]
  congr 2
  omega

theorem ofFields?_self (t : ClientTime) :
    ofFields? t.year t.month t.day t.hour t.minute t.second = some t := dif_pos t.existing

/-- **A time is read back from its written form.** -/
theorem parse?_text (t : ClientTime) : parse? t.text = some t := by
  obtain ⟨hyear, -, hmonth, -, hday, hhour, hminute, hsecond⟩ := t.existing
  have hlength := Calendar.daysInMonth_le t.year t.month
  have hchars : t.text.toList = four t.year ++ '-' :: (two t.month ++ '-' :: (two t.day ++ 'T' :: (two t.hour ++ ':' ::
      (two t.minute ++ ':' :: (two t.second ++ ['Z']))))) := by
    simp only [text, chars, String.toList_ofList, List.append_assoc, List.cons_append]
  rw [parse?, hchars]
  -- field by field, each with the mark after it
  refine Option.bind_eq_some_iff.2 ⟨_, digits?_four hyear _, ?_⟩
  refine Option.bind_eq_some_iff.2 ⟨_, Text.expect?_cons '-' _, ?_⟩
  refine Option.bind_eq_some_iff.2 ⟨_, digits?_two (by omega) _, ?_⟩
  refine Option.bind_eq_some_iff.2 ⟨_, Text.expect?_cons '-' _, ?_⟩
  refine Option.bind_eq_some_iff.2 ⟨_, digits?_two (by omega) _, ?_⟩
  refine Option.bind_eq_some_iff.2 ⟨_, Text.expect?_cons 'T' _, ?_⟩
  refine Option.bind_eq_some_iff.2 ⟨_, digits?_two (by omega) _, ?_⟩
  refine Option.bind_eq_some_iff.2 ⟨_, Text.expect?_cons ':' _, ?_⟩
  refine Option.bind_eq_some_iff.2 ⟨_, digits?_two (by omega) _, ?_⟩
  refine Option.bind_eq_some_iff.2 ⟨_, Text.expect?_cons ':' _, ?_⟩
  refine Option.bind_eq_some_iff.2 ⟨_, digits?_two (by omega) _, ?_⟩
  refine Option.bind_eq_some_iff.2 ⟨_, Text.expect?_cons 'Z' _, ?_⟩
  exact ofFields?_self t

end ClientTime

end CredentialFailover
