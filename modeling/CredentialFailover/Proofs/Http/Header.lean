/-
Which texts can be sent as a field value.

A field value is judged octet by octet, and every octet of a character beyond ASCII is beyond ASCII itself
(`le_of_mem_encodeChar`). So a text can be sent if it has no control character but the tab.

Main fact: `headerValue?_eq_some_iff`.
-/
import CredentialFailover.Http.Header
import CredentialFailover.Proofs.Text.Encoding

namespace CredentialFailover

theorem Utf8.le_of_mem_encodeChar {c : Char} (h : 0x80 ≤ c.toNat) {b : UInt8} (hb : b ∈ String.utf8EncodeChar c) :
    0x80 ≤ b.toNat := by
  have hvalue : ∀ n m : ℕ, 0x80 ≤ m → n + m < 256 → 0x80 ≤ (UInt8.ofNat (n + m)).toNat := by
    intro n m hm hlt
    rw [toNat_ofNat hlt]
    omega
  simp only [String.utf8EncodeChar, Char.toNat_val] at hb
  split_ifs at hb with h1 h2 h3
  · omega
  all_goals
    simp only [List.mem_cons, List.not_mem_nil, or_false] at hb
    rcases hb with rfl | rfl | rfl | rfl <;> exact hvalue _ _ (by decide) (by omega)

namespace Http

/-- a text that can be sent as a field value: of the control characters it has the tab alone -/
def IsSendable (s : String) : Prop := ∀ c ∈ s.toList, c = '\t' ∨ (0x20 ≤ c.toNat ∧ c.toNat ≠ 0x7F)

instance (s : String) : Decidable (IsSendable s) := List.decidableBAll _ _

theorem isValueOctet_iff {b : UInt8} :
    isValueOctet b = true ↔ b.toNat = 0x09 ∨ (0x20 ≤ b.toNat ∧ b.toNat ≠ 0x7F) := by
  simp only [isValueOctet, Bool.or_eq_true, Bool.and_eq_true, beq_iff_eq, bne_iff_ne, decide_eq_true_eq,
    UInt8.le_iff_toNat_le, ne_eq, ← UInt8.toNat_inj]
  rfl

theorem isValueOctet_encodeChar_iff {c : Char} :
    (∀ b ∈ String.utf8EncodeChar c, isValueOctet b = true) ↔ c = '\t' ∨ (0x20 ≤ c.toNat ∧ c.toNat ≠ 0x7F) := by
  have htab : c = '\t' ↔ c.toNat = 0x09 := by rw [← Char.toNat_inj]; rfl
  by_cases hc : c.toNat < 0x80
  · have hone : String.utf8EncodeChar c = [UInt8.ofNat c.toNat] := by
      rw [String.utf8EncodeChar, Char.toNat_val, if_pos (Nat.le_of_lt_succ hc)]
    rw [hone, List.forall_mem_singleton, isValueOctet_iff, htab, Utf8.toNat_ofNat (by omega)]
  · have hbeyond : ∀ b ∈ String.utf8EncodeChar c, isValueOctet b = true := by
      intro b hb
      have hle := Utf8.le_of_mem_encodeChar (by omega) hb
      rw [isValueOctet_iff]
      omega
    constructor
    · intro _
      omega
    · intro _
      exact hbeyond

theorem headerValue?_eq_some_iff {s : String} {value : List UInt8} :
    headerValue? s = some value ↔ IsSendable s ∧ value = Utf8.bytes s := by
  have hall : (Utf8.bytes s).all isValueOctet = true ↔ IsSendable s := by
    simp only [Utf8.bytes, Utf8.encode, List.all_flatMap, List.all_eq_true, isValueOctet_encodeChar_iff, IsSendable]
  rw [headerValue?, ← hall]
  split_ifs with h
  · simp [h, eq_comm]
  · simp [h]

end Http

end CredentialFailover
