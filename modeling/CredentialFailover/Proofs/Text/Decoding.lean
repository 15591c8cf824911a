/-
UTF-8 is read from the octets of a text and from nothing else.

If no part is ill-formed, the octets begin with those of a character, and what follows them has no ill-formed part either
(`exists_encodeChar`): the first octet decides how many follow and how the second one is bounded, and the bounds leave out
what has a shorter form, the surrogates, and what lies beyond the last code point. So the octets are those of a text.

Main fact: `decode?_eq_some_iff`.
-/
import CredentialFailover.Proofs.Text.Encoding

namespace CredentialFailover.Utf8

/-! ## Single characters -/

theorem toNat_ofNat_of_isValidChar {v : ℕ} (h : v.isValidChar) : (Char.ofNat v).toNat = v := by
  rw [Char.ofNat, dif_pos h]
  rfl

theorem encodeChar_of_one {v : ℕ} (h : v < 0x80) : String.utf8EncodeChar (Char.ofNat v) = [UInt8.ofNat v] := by
  have hv : (Char.ofNat v).toNat = v := toNat_ofNat_of_isValidChar (Or.inl (by omega))
  simp only [String.utf8EncodeChar, Char.toNat_val, hv]
  rw [if_pos (by omega)]

theorem encodeChar_of_two {l m : ℕ} (hl : l < 32) (hm : m < 64) (hleast : 2 ≤ l) :
    String.utf8EncodeChar (Char.ofNat (l * 64 + m)) = [UInt8.ofNat (l + 0xC0), UInt8.ofNat (m + 0x80)] := by
  have hv : (Char.ofNat (l * 64 + m)).toNat = l * 64 + m := toNat_ofNat_of_isValidChar (Or.inl (by omega))
  simp only [String.utf8EncodeChar, Char.toNat_val, hv]
  rw [if_neg (by omega), if_pos (by omega), show (l * 64 + m) / 64 % 32 = l by omega,
    show (l * 64 + m) % 64 = m by omega]

theorem encodeChar_of_three {l m n : ℕ} (hl : l < 16) (hm : m < 64) (hn : n < 64) (hleast : 0x20 ≤ l * 64 + m)
    (hplain : l * 64 + m < 0x360 ∨ 0x37F < l * 64 + m) :
    String.utf8EncodeChar (Char.ofNat ((l * 64 + m) * 64 + n)) =
      [UInt8.ofNat (l + 0xE0), UInt8.ofNat (m + 0x80), UInt8.ofNat (n + 0x80)] := by
  have hv : (Char.ofNat ((l * 64 + m) * 64 + n)).toNat = (l * 64 + m) * 64 + n :=
    toNat_ofNat_of_isValidChar (by unfold Nat.isValidChar; omega)
  simp only [String.utf8EncodeChar, Char.toNat_val, hv]
  rw [if_neg (by omega), if_neg (by omega), if_pos (by omega), show ((l * 64 + m) * 64 + n) / 4096 % 16 = l by omega,
    show ((l * 64 + m) * 64 + n) / 64 % 64 = m by omega, show ((l * 64 + m) * 64 + n) % 64 = n by omega]

theorem encodeChar_of_four {l k m n : ℕ} (hk : k < 64) (hm : m < 64) (hn : n < 64) (hleast : 0x10 ≤ l * 64 + k)
    (hmost : l * 64 + k < 0x110) :
    String.utf8EncodeChar (Char.ofNat (((l * 64 + k) * 64 + m) * 64 + n)) =
      [UInt8.ofNat (l + 0xF0), UInt8.ofNat (k + 0x80), UInt8.ofNat (m + 0x80), UInt8.ofNat (n + 0x80)] := by
  have hv : (Char.ofNat (((l * 64 + k) * 64 + m) * 64 + n)).toNat = ((l * 64 + k) * 64 + m) * 64 + n :=
    toNat_ofNat_of_isValidChar (by unfold Nat.isValidChar; omega)
  simp only [String.utf8EncodeChar, Char.toNat_val, hv]
  rw [if_neg (by omega), if_neg (by omega), if_neg (by omega),
    show (((l * 64 + k) * 64 + m) * 64 + n) / 262144 % 8 = l by omega,
    show (((l * 64 + k) * 64 + m) * 64 + n) / 4096 % 64 = k by omega,
    show (((l * 64 + k) * 64 + m) * 64 + n) / 64 % 64 = m by omega,
    show (((l * 64 + k) * 64 + m) * 64 + n) % 64 = n by omega]

/-! ## Octets without an ill-formed part -/

/-- the state after an octet within the bounds -/
def next (owed bits : ℕ) : State :=
  match owed with
  | 0 => .ground
  | owed + 1 => .partway owed 0x80 0xBF bits

/-- an octet that is owed is there, within its bounds -/
theorem exists_owed {owed bits : ℕ} {low high : UInt8} {bs : List UInt8} (hlow : 0x80 ≤ low.toNat)
    (hhigh : high.toNat ≤ 0xBF) (h : none ∉ run (.partway owed low high bits) bs) :
    ∃ n rest, n < 64 ∧ low.toNat ≤ n + 0x80 ∧ n + 0x80 ≤ high.toNat ∧ bs = UInt8.ofNat (n + 0x80) :: rest ∧
      none ∉ run (next owed (bits * 64 + n)) rest := by
  cases bs with
  | nil => exact absurd (List.mem_singleton_self _) h
  | cons b rest =>
    by_cases hb : low.toNat ≤ b.toNat ∧ b.toNat ≤ high.toNat
    · have hsum : b.toNat - 0x80 + 0x80 = b.toNat := by omega
      refine ⟨b.toNat - 0x80, rest, by omega, by omega, by omega, by rw [hsum, UInt8.ofNat_toNat], ?_⟩
      rw [run_cons, ← UInt8.ofNat_toNat (x := b), step_ofNat b.toNat_lt hb.1 hb.2] at h
      cases owed with
      | zero => exact fun hnone => h (List.mem_append_right _ hnone)
      | succ owed => exact h
    · refine absurd ?_ h
      have hout : (low ≤ b && b ≤ high) = false := by
        rw [Bool.and_eq_false_iff, decide_eq_false_iff_not, decide_eq_false_iff_not, UInt8.le_iff_toNat_le,
          UInt8.le_iff_toNat_le]
        omega
      simp [run_cons, step, hout]

theorem exists_tail {owed bits : ℕ} {bs : List UInt8} (h : none ∉ run (.partway owed 0x80 0xBF bits) bs) :
    ∃ n rest, n < 64 ∧ bs = UInt8.ofNat (n + 0x80) :: rest ∧ none ∉ run (next owed (bits * 64 + n)) rest := by
  obtain ⟨n, rest, hn, -, -, hbs, hrest⟩ := exists_owed (by decide) (by decide) h
  exact ⟨n, rest, hn, hbs, hrest⟩

/-- the octets of a character are completed after the first of three -/
theorem exists_of_three {l : ℕ} {low high : UInt8} {bs : List UInt8} (hl : l < 16) (hlow : 0x80 ≤ low.toNat)
    (hhigh : high.toNat ≤ 0xBF)
    (hplain : ∀ m, low.toNat ≤ m + 0x80 → m + 0x80 ≤ high.toNat →
      0x20 ≤ l * 64 + m ∧ (l * 64 + m < 0x360 ∨ 0x37F < l * 64 + m))
    (h : none ∉ run (.partway 1 low high l) bs) :
    ∃ c rest, UInt8.ofNat (l + 0xE0) :: bs = String.utf8EncodeChar c ++ rest ∧ none ∉ run .ground rest := by
  obtain ⟨m, bs, hm, hml, hmh, rfl, hsecond⟩ := exists_owed hlow hhigh h
  obtain ⟨n, rest, hn, rfl, hthird⟩ := exists_tail hsecond
  obtain ⟨hleast, hplain⟩ := hplain m hml hmh
  refine ⟨Char.ofNat ((l * 64 + m) * 64 + n), rest, ?_, hthird⟩
  rw [encodeChar_of_three hl hm hn hleast hplain]
  rfl

/-- the octets of a character are completed after the first of four -/
theorem exists_of_four {l : ℕ} {low high : UInt8} {bs : List UInt8} (hlow : 0x80 ≤ low.toNat)
    (hhigh : high.toNat ≤ 0xBF)
    (hplain : ∀ k, low.toNat ≤ k + 0x80 → k + 0x80 ≤ high.toNat → 0x10 ≤ l * 64 + k ∧ l * 64 + k < 0x110)
    (h : none ∉ run (.partway 2 low high l) bs) :
    ∃ c rest, UInt8.ofNat (l + 0xF0) :: bs = String.utf8EncodeChar c ++ rest ∧ none ∉ run .ground rest := by
  obtain ⟨k, bs, hk, hkl, hkh, rfl, hsecond⟩ := exists_owed hlow hhigh h
  obtain ⟨m, bs, hm, rfl, hthird⟩ := exists_tail hsecond
  obtain ⟨n, rest, hn, rfl, hfourth⟩ := exists_tail hthird
  obtain ⟨hleast, hmost⟩ := hplain k hkl hkh
  refine ⟨Char.ofNat (((l * 64 + k) * 64 + m) * 64 + n), rest, ?_, hfourth⟩
  rw [encodeChar_of_four hk hm hn hleast hmost]
  rfl

/-- octets without an ill-formed part begin with those of a character -/
theorem exists_encodeChar {b : UInt8} {bs : List UInt8} (h : none ∉ run .ground (b :: bs)) :
    ∃ c rest, b :: bs = String.utf8EncodeChar c ++ rest ∧ none ∉ run .ground rest := by
  have hb : b.toNat < 256 := b.toNat_lt
  rw [← UInt8.ofNat_toNat (x := b)] at h ⊢
  generalize b.toNat = n at hb h ⊢
  rw [run_cons, step, begin_ofNat hb] at h
  split_ifs at h with h1 h2 h3 h4 h5 h6 h7 h8
  · refine ⟨Char.ofNat n, bs, ?_, fun hnone => h (List.mem_append_right _ hnone)⟩
    rw [encodeChar_of_one h1]
    rfl
  · obtain ⟨m, rest, hm, rfl, hsecond⟩ := exists_tail h
    refine ⟨Char.ofNat ((n - 0xC0) * 64 + m), rest, ?_, hsecond⟩
    rw [encodeChar_of_two (by omega) hm (by omega), Nat.sub_add_cancel (by omega)]
    rfl
  · subst h3
    exact exists_of_three (l := 0) (by decide) (by decide) (by decide)
      (fun m hml hmh => by simp at hml hmh; omega) h
  · subst h4
    exact exists_of_three (l := 0xD) (by decide) (by decide) (by decide)
      (fun m hml hmh => by simp at hml hmh; omega) h
  · have hl : n - 0xE0 + 0xE0 = n := by omega
    rw [← hl]
    exact exists_of_three (by omega) (by decide) (by decide) (fun m hml hmh => by simp at hml hmh; omega) h
  · subst h6
    exact exists_of_four (l := 0) (by decide) (by decide) (fun k hkl hkh => by simp at hkl hkh; omega) h
  · have hl : n - 0xF0 + 0xF0 = n := by omega
    rw [← hl]
    exact exists_of_four (by decide) (by decide) (fun k hkl hkh => by simp at hkl hkh; omega) h
  · subst h8
    exact exists_of_four (l := 4) (by decide) (by decide) (fun k hkl hkh => by simp at hkl hkh; omega) h
  · exact absurd (List.mem_cons_self ..) h

theorem none_notMem_of_wellFormed? {items : List Item} {cs : List Char} (h : wellFormed? items = some cs) :
    none ∉ items := by
  induction items generalizing cs with
  | nil => exact List.not_mem_nil
  | cons item items ih =>
    cases item with
    | none => cases h
    | some c =>
      obtain ⟨ds, hds, -⟩ := Option.map_eq_some_iff.1 h
      exact fun hnone => ih hds ((List.mem_cons.1 hnone).resolve_left (by simp))

/-- octets without an ill-formed part are those of a text -/
theorem exists_encode {bs : List UInt8} (h : none ∉ decode bs) : ∃ cs, bs = encode cs := by
  induction hlength : bs.length using Nat.strongRecOn generalizing bs with
  | ind length ih =>
    cases bs with
    | nil => exact ⟨[], rfl⟩
    | cons b bs =>
      obtain ⟨c, rest, hsplit, hrest⟩ := exists_encodeChar h
      have hshorter : rest.length < length := by
        have hpos : 0 < (String.utf8EncodeChar c).length := by
          rw [String.length_utf8EncodeChar]
          exact c.utf8Size_pos
        have hsum := congrArg List.length hsplit
        rw [List.length_append] at hsum
        omega
      obtain ⟨cs, rfl⟩ := ih _ hshorter hrest rfl
      exact ⟨c :: cs, hsplit⟩

theorem decode?_bytes (s : String) : decode? (bytes s) = some s := by
  rw [bytes, decode?_encode, String.ofList_toList]

/-- **A text is read from its octets and from no others.** -/
theorem decode?_eq_some_iff {bs : List UInt8} {s : String} : decode? bs = some s ↔ bs = bytes s := by
  constructor
  · intro h
    obtain ⟨cs, hcs, rfl⟩ := Option.map_eq_some_iff.1 h
    obtain ⟨ds, rfl⟩ := exists_encode (none_notMem_of_wellFormed? hcs)
    rw [decode_encode, wellFormed?_map_some, Option.some.injEq] at hcs
    rw [bytes, String.toList_ofList, hcs]
  · rintro rfl
    exact decode?_bytes s

end CredentialFailover.Utf8
