/-
Numbers at fixed width.

So many digits spell a number, and a number has one spelling of each width that is great enough for it. Reading takes off as
many digits as there should be, with the mark behind them. Numbers of one width are ordered as their octets are.

Main facts: `digits?_iff_spells`, `exists_field` (what is read), `eq_written_of_spells` (the one spelling),
`encode_written_lt_iff` (the order).
-/
import CredentialFailover.Proofs.Text.Decimal
import CredentialFailover.Proofs.Text.Encoding
import CredentialFailover.Text.Digits

namespace CredentialFailover.Text

/-! ## Spelling and reading -/

/-- so many decimal digits, and the number they spell -/
structure Spells (width n : ℕ) (cs : List Char) : Prop where
  length : cs.length = width
  digits : ∀ c ∈ cs, '0' ≤ c ∧ c ≤ '9'
  value : cs.foldl (fun value c => value * 10 + (c.toNat - '0'.toNat)) 0 = n

theorem isDigit_iff_between {c : Char} : c.isDigit = true ↔ '0' ≤ c ∧ c ≤ '9' := by
  simp [Char.isDigit, Char.le_def]

/-- a digit is the one that writes its value -/
theorem digitChar_of_between {c : Char} (h : '0' ≤ c ∧ c ≤ '9') :
    c.toNat - '0'.toNat < 10 ∧ Nat.digitChar (c.toNat - '0'.toNat) = c := by
  obtain ⟨hleast, hmost⟩ := isDigit_iff.1 (isDigit_iff_between.2 h)
  have hzero : '0'.toNat = 48 := rfl
  have hlt : c.toNat - '0'.toNat < 10 := by omega
  refine ⟨hlt, Char.toNat_inj.1 ?_⟩
  rw [Nat.toNat_digitChar_of_lt_ten hlt]
  omega

/-- reading digits takes off as many as there should be, whatever the value so far -/
theorem digits?_eq_some_iff {width v n : ℕ} {cs rest : List Char} :
    digits? width v cs = some (n, rest) ↔
      ∃ ds, cs = ds ++ rest ∧ ds.length = width ∧ (∀ c ∈ ds, c.isDigit = true) ∧
        ds.foldl (fun value c => value * 10 + (c.toNat - '0'.toNat)) v = n := by
  induction width generalizing v cs with
  | zero =>
    simp only [digits?, Option.some.injEq, Prod.mk.injEq, List.length_eq_zero_iff]
    constructor
    · rintro ⟨rfl, rfl⟩
      exact ⟨[], rfl, rfl, by simp, rfl⟩
    · rintro ⟨ds, rfl, rfl, -, rfl⟩
      exact ⟨rfl, rfl⟩
  | succ width ih =>
    cases cs with
    | nil =>
      simp only [digits?, reduceCtorEq, false_iff]
      rintro ⟨ds, hcs, hlength, -⟩
      obtain ⟨rfl, -⟩ := List.append_eq_nil_iff.1 hcs.symm
      cases hlength
    | cons c cs =>
      rw [digits?]
      constructor
      · intro h
        split_ifs at h with hc
        obtain ⟨ds, rfl, hlength, hdigits, hvalue⟩ := ih.1 h
        exact ⟨c :: ds, rfl, congrArg Nat.succ hlength, List.forall_mem_cons.2 ⟨hc, hdigits⟩, hvalue⟩
      · rintro ⟨ds, hcs, hlength, hdigits, hvalue⟩
        cases ds with
        | nil => cases hlength
        | cons d ds =>
          obtain ⟨rfl, rfl⟩ := List.cons.inj hcs
          rw [if_pos (hdigits _ (List.mem_cons_self ..))]
          exact ih.2 ⟨ds, rfl, Nat.succ.inj hlength, fun c hc => hdigits c (List.mem_cons_of_mem _ hc), hvalue⟩

theorem digits?_iff_spells {width n : ℕ} {cs rest : List Char} :
    digits? width 0 cs = some (n, rest) ↔ ∃ ds, cs = ds ++ rest ∧ Spells width n ds := by
  rw [digits?_eq_some_iff]
  constructor
  · rintro ⟨ds, hcs, hlength, hdigits, hvalue⟩
    exact ⟨ds, hcs, hlength, fun c hc => isDigit_iff_between.1 (hdigits c hc), hvalue⟩
  · rintro ⟨ds, hcs, hspells⟩
    exact ⟨ds, hcs, hspells.length, fun c hc => isDigit_iff_between.2 (hspells.digits c hc), hspells.value⟩

/-- a number and the mark behind it, read in front of what is read next -/
theorem exists_field {α : Type} {width : ℕ} {mark : Char} {cs : List Char} {f : ℕ × List Char → Option α}
    {next : ℕ → List Char → Option α} {a : α} (h : digits? width 0 cs >>= f = some a)
    (hf : ∀ n rest, f (n, rest) = expect? mark rest >>= next n) :
    ∃ n ds rest, cs = ds ++ mark :: rest ∧ Spells width n ds ∧ next n rest = some a := by
  obtain ⟨⟨n, behind⟩, hdigits, hbehind⟩ := Option.bind_eq_some_iff.1 h
  rw [hf] at hbehind
  obtain ⟨rest, hmark, hnext⟩ := Option.bind_eq_some_iff.1 hbehind
  obtain ⟨ds, rfl, hspells⟩ := digits?_iff_spells.1 hdigits
  obtain rfl := expect?_eq_some_iff.1 hmark
  exact ⟨n, ds, rest, rfl, hspells, hnext⟩

/-- a number at full width -/
def written : ℕ → ℕ → List Char
  | 0, _ => []
  | width + 1, n => written width (n / 10) ++ [Nat.digitChar (n % 10)]

/-- digits that spell a number are its digits at full width -/
theorem eq_written_of_spells {width n : ℕ} {cs : List Char} (h : Spells width n cs) :
    cs = written width n ∧ n < 10 ^ width := by
  induction width generalizing n cs with
  | zero =>
    obtain rfl := List.length_eq_zero_iff.1 h.length
    obtain rfl := h.value
    exact ⟨rfl, Nat.one_pos⟩
  | succ width ih =>
    obtain ⟨front, c, rfl⟩ : ∃ front c, cs = front ++ [c] := by
      rcases List.eq_nil_or_concat' cs with rfl | hcs
      · cases h.length
      · exact hcs
    obtain ⟨hlt, hc⟩ := digitChar_of_between (h.digits c (by simp))
    have hvalue := h.value
    rw [List.foldl_append, List.foldl_cons, List.foldl_nil] at hvalue
    have hfront : Spells width (n / 10) front := by
      refine ⟨by simpa using h.length, fun d hd => h.digits d (List.mem_append_left _ hd), ?_⟩
      omega
    obtain ⟨rfl, hpow⟩ := ih hfront
    have hlast : n % 10 = c.toNat - '0'.toNat := by omega
    refine ⟨by rw [written, hlast, hc], ?_⟩
    rw [Nat.pow_succ]
    omega

/-! ## Order -/

/-- what two texts begin with in common has no part in their order -/
theorem append_lt_append_iff (front : List UInt8) {as bs : List UInt8} : front ++ as < front ++ bs ↔ as < bs := by
  induction front with
  | nil => rfl
  | cons b front ih =>
    rw [List.cons_append, List.cons_append, List.cons_lt_cons_iff, ih]
    simp

theorem encode_cons_lt_iff (c : Char) {cs ds : List Char} :
    Utf8.encode (c :: cs) < Utf8.encode (c :: ds) ↔ Utf8.encode cs < Utf8.encode ds :=
  append_lt_append_iff (String.utf8EncodeChar c)

/-- the one octet of a digit -/
theorem encodeChar_digitChar {d : ℕ} (hd : d < 10) :
    String.utf8EncodeChar (Nat.digitChar d) = [UInt8.ofNat (d + 48)] := by
  revert d
  decide

theorem encode_digitChar_lt_iff {m n : ℕ} (hm : m < 10) (hn : n < 10) {cs ds : List Char} :
    Utf8.encode (Nat.digitChar m :: cs) < Utf8.encode (Nat.digitChar n :: ds) ↔
      m < n ∨ m = n ∧ Utf8.encode cs < Utf8.encode ds := by
  have hcons : ∀ d < 10, ∀ cs, Utf8.encode (Nat.digitChar d :: cs) = UInt8.ofNat (d + 48) :: Utf8.encode cs := by
    intro d hd cs
    rw [Utf8.encode, List.flatMap_cons, encodeChar_digitChar hd]
    rfl
  rw [hcons m hm, hcons n hn, List.cons_lt_cons_iff, UInt8.lt_iff_toNat_lt, ← UInt8.toNat_inj,
    Utf8.toNat_ofNat (by omega), Utf8.toNat_ofNat (by omega)]
  simp

/-- numbers of one width are ordered as they are written -/
theorem encode_written_lt_iff {width m n : ℕ} (hm : m < 10 ^ width) (hn : n < 10 ^ width) {cs ds : List Char} :
    Utf8.encode (written width m ++ cs) < Utf8.encode (written width n ++ ds) ↔
      m < n ∨ m = n ∧ Utf8.encode cs < Utf8.encode ds := by
  induction width generalizing m n cs ds with
  | zero =>
    obtain rfl : m = 0 := by omega
    obtain rfl : n = 0 := by omega
    simp [written]
  | succ width ih =>
    rw [Nat.pow_succ] at hm hn
    simp only [written, List.append_assoc, List.singleton_append]
    rw [ih (by omega) (by omega), encode_digitChar_lt_iff (Nat.mod_lt _ (by decide)) (Nat.mod_lt _ (by decide))]
    by_cases hrest : Utf8.encode cs < Utf8.encode ds
    · simp only [hrest, and_true]
      omega
    · simp only [hrest, and_false, or_false]
      omega

end CredentialFailover.Text
