/-
Compact texts of objects that differ in texts only.

The printed form of a text ends with the quotation mark that closes it, so no printed text is the front of another one: two
of them are the same, or they part at some character. What stands between the texts of two such objects is the same in both,
so their compact forms are the same or part as well, and none is the front of the other. Where they part both have printing
characters, for the printed form of a text has no others.

Main facts: `parting_quoted` and `parting_compactChars`.
-/
import CredentialFailover.Proofs.Json.Printing

namespace CredentialFailover

/-! ## Texts that part -/

namespace Text

/-- the same text twice, or two texts that go on with different printing characters after a common front -/
inductive Parting : List Char → List Char → Prop where
  | same (cs : List Char) : Parting cs cs
  | apart {a b : Char} (front as bs : List Char) (hne : a ≠ b) (ha : 0x20 ≤ a.toNat) (hb : 0x20 ≤ b.toNat) :
    Parting (front ++ a :: as) (front ++ b :: bs)

theorem Parting.append {as bs xs ys : List Char} (h : Parting as bs) (h' : Parting xs ys) :
    Parting (as ++ xs) (bs ++ ys) := by
  cases h with
  | same =>
    cases h' with
    | same => exact Parting.same _
    | apart front xs ys hne ha hb =>
      rw [← List.append_assoc, ← List.append_assoc]
      exact Parting.apart (as ++ front) xs ys hne ha hb
  | apart front as bs hne ha hb =>
    rw [List.append_assoc, List.append_assoc, List.cons_append, List.cons_append]
    exact Parting.apart front (as ++ xs) (bs ++ ys) hne ha hb

/-- of two lists one is the front of the other, or they go on with different characters after a common front -/
theorem exists_front (as bs : List Char) :
    (∃ rest, bs = as ++ rest) ∨ (∃ rest, as = bs ++ rest) ∨
      ∃ front a b as' bs', as = front ++ a :: as' ∧ bs = front ++ b :: bs' ∧ a ≠ b := by
  induction as generalizing bs with
  | nil => exact Or.inl ⟨bs, rfl⟩
  | cons a as ih =>
    cases bs with
    | nil => exact Or.inr (Or.inl ⟨a :: as, rfl⟩)
    | cons b bs =>
      by_cases hab : a = b
      · subst hab
        rcases ih bs with ⟨rest, rfl⟩ | ⟨rest, rfl⟩ | ⟨front, c, d, as', bs', rfl, rfl, hne⟩
        · exact Or.inl ⟨rest, rfl⟩
        · exact Or.inr (Or.inl ⟨rest, rfl⟩)
        · exact Or.inr (Or.inr ⟨a :: front, c, d, as', bs', rfl, rfl, hne⟩)
      · exact Or.inr (Or.inr ⟨[], a, b, as, bs, rfl, rfl, hab⟩)

end Text

namespace Json

open Text (Parting)

/-! ## Printed texts -/

/-- a character inside a text is printed in printing characters -/
theorem printing_of_mem_escaped {c d : Char} (h : d ∈ escaped c) : 0x20 ≤ d.toNat := by
  have hhex : ∀ n < 16, 0x20 ≤ (Ascii.lowerHex n).toNat := by decide
  have hshort : ∀ e, 0x20 ≤ e.toNat → d ∈ ['\\', e] → 0x20 ≤ d.toNat := by
    intro e he hd
    rcases List.mem_pair.1 hd with rfl | rfl
    · decide
    · exact he
  unfold escaped at h
  split_ifs at h with hquote hbackslash hb ht hn hf hr hcontrol
  · exact hshort _ (by decide) h
  · exact hshort _ (by decide) h
  · exact hshort _ (by decide) h
  · exact hshort _ (by decide) h
  · exact hshort _ (by decide) h
  · exact hshort _ (by decide) h
  · exact hshort _ (by decide) h
  · rcases List.mem_append.1 h with h | h
    · simp only [List.mem_cons, List.not_mem_nil, or_false] at h
      rcases h with rfl | rfl | rfl | rfl <;> decide
    · rcases List.mem_pair.1 h with rfl | rfl
      · exact hhex _ (by omega)
      · exact hhex _ (by omega)
  · obtain rfl := List.mem_singleton.1 h
    exact not_lt.1 hcontrol

/-- a text is printed in printing characters -/
theorem printing_of_mem_quoted {s : String} {c : Char} (h : c ∈ quoted s) : 0x20 ≤ c.toNat := by
  rw [quoted, List.mem_append, List.mem_cons] at h
  rcases h with (rfl | h) | h
  · decide
  · obtain ⟨d, -, hc⟩ := List.mem_flatMap.1 h
    exact printing_of_mem_escaped hc
  · obtain rfl := List.mem_singleton.1 h
    decide

/-- no printed text is the front of another one: it is read back, whatever follows -/
theorem eq_of_quoted_append {s s' : String} {rest rest' : List Char} (h : quoted s ++ rest = quoted s' ++ rest') :
    s = s' := by
  have hread : ∀ (s : String) (rest : List Char),
      text (Utf8.encode (s.toList.flatMap escaped ++ '"' :: rest)) = .ok (s, Utf8.encode rest) := by
    intro s rest
    rw [Utf8.encode_append, encode_cons]
    exact text_of_spelling (charsSpelling_escaped s.toList) (Utf8.encode rest)
  simp only [quoted, List.cons_append, List.append_assoc, List.nil_append, List.cons.injEq, true_and] at h
  have hsame := hread s rest
  rw [h, hread s' rest'] at hsame
  exact (Prod.mk.inj (Except.ok.inj hsame)).1.symm

/-- **Two printed texts are the same or part.** -/
theorem parting_quoted (s s' : String) : Parting (quoted s) (quoted s') := by
  rcases Text.exists_front (quoted s) (quoted s') with ⟨rest, h⟩ | ⟨rest, h⟩ | ⟨front, a, b, as, bs, h, h', hne⟩
  · have hfront : quoted s ++ rest = quoted s' ++ [] := by rw [List.append_nil, h]
    rw [eq_of_quoted_append hfront]
    exact Parting.same _
  · have hfront : quoted s ++ [] = quoted s' ++ rest := by rw [List.append_nil, h]
    rw [eq_of_quoted_append hfront]
    exact Parting.same _
  · have ha : 0x20 ≤ a.toNat := printing_of_mem_quoted (s := s) (by simp [h])
    have hb : 0x20 ≤ b.toNat := printing_of_mem_quoted (s := s') (by simp [h'])
    rw [h, h']
    exact Parting.apart front as bs hne ha hb

/-! ## Objects -/

/-- members with the same key, and with the same value or with texts -/
inductive SameButText : String × Value → String × Value → Prop where
  | same (m : String × Value) : SameButText m m
  | texts (key s s' : String) : SameButText (key, .text s) (key, .text s')

/-- a member in compact form -/
def memberChars (m : String × Value) : List Char := quoted m.1 ++ ':' :: m.2.compactChars

theorem memberChars_text (key s : String) : memberChars (key, .text s) = quoted key ++ [':'] ++ quoted s := by
  rw [memberChars, Value.compactChars, List.append_assoc]
  rfl

theorem compactMembers_singleton (m : String × Value) : compactMembers [m] = memberChars m := by
  rw [compactMembers]
  rfl

theorem compactMembers_cons (m : String × Value) {ms : List (String × Value)} (h : ms ≠ []) :
    compactMembers (m :: ms) = memberChars m ++ ',' :: compactMembers ms := by
  obtain ⟨n, ns, rfl⟩ := List.exists_cons_of_ne_nil h
  rw [compactMembers]
  rfl

theorem parting_memberChars {m m' : String × Value} (h : SameButText m m') :
    Parting (memberChars m) (memberChars m') := by
  cases h with
  | same => exact Parting.same _
  | texts key s s' =>
    have hvalue : Parting (':' :: quoted s) (':' :: quoted s') :=
      (Parting.same [':']).append (parting_quoted s s')
    exact (Parting.same (quoted key)).append hvalue

theorem parting_compactMembers {ms ms' : List (String × Value)} (h : List.Forall₂ SameButText ms ms') :
    Parting (compactMembers ms) (compactMembers ms') := by
  induction h with
  | nil => exact Parting.same _
  | @cons m m' ms ms' hm hms ih =>
    cases hms with
    | nil =>
      rw [compactMembers_singleton, compactMembers_singleton]
      exact parting_memberChars hm
    | cons hn hms =>
      rw [compactMembers_cons _ (List.cons_ne_nil _ _), compactMembers_cons _ (List.cons_ne_nil _ _)]
      exact (parting_memberChars hm).append ((Parting.same [',']).append ih)

/-- in front of a member stands what comes of the members before it, whatever the member is and what is behind it -/
theorem exists_compactMembers (before : List (String × Value)) :
    ∃ front, ∀ (m : String × Value) (after : List (String × Value)),
      compactMembers (before ++ [m]) = front ++ memberChars m ∧
        ∃ behind, compactMembers (before ++ m :: after) = front ++ memberChars m ++ behind := by
  induction before with
  | nil =>
    refine ⟨[], fun m after => ⟨compactMembers_singleton m, ?_⟩⟩
    cases after with
    | nil => exact ⟨[], by rw [List.nil_append, compactMembers_singleton, List.append_nil, List.nil_append]⟩
    | cons n ns => exact ⟨_, compactMembers_cons m (List.cons_ne_nil n ns)⟩
  | cons n before ih =>
    obtain ⟨front, hfront⟩ := ih
    refine ⟨memberChars n ++ ',' :: front, fun m after => ?_⟩
    obtain ⟨hupto, behind, hwhole⟩ := hfront m after
    refine ⟨?_, behind, ?_⟩
    · rw [List.cons_append, compactMembers_cons n (by simp), hupto, List.append_assoc]
      rfl
    · rw [List.cons_append, compactMembers_cons n (by simp), hwhole]
      simp only [List.append_assoc, List.cons_append]

/-- **The compact forms of two objects that differ in texts only are the same or part.** -/
theorem parting_compactChars {ms ms' : List (String × Value)} (h : List.Forall₂ SameButText ms ms') :
    Parting (Value.object ms).compactChars (Value.object ms').compactChars := by
  rw [Value.compactChars, Value.compactChars]
  exact ((Parting.same ['\x7b']).append (parting_compactMembers h)).append (Parting.same ['\x7d'])

end Json

end CredentialFailover
