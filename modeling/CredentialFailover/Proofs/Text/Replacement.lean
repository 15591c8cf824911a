/-
Texts that may be ill-formed: what stands for what, and how far the machine looks ahead.

A text falls into characters and ill-formed parts. An ill-formed part is as long as it can be while some character begins
with its octets; where no character begins with the first octet, the part is that one octet. So the parts of a text are
determined by the text alone (`Transcribed.unique`), and the machine finds them: between two items its state holds octets
that a character begins with, and an octet is within the bounds of the state exactly when a character goes on with it
(`within_iff_begins`).

An item is decided by the four octets from its first one on, because no character has more. So texts that agree on their
first `4 * n` octets have the same first `n` items (`take_decodeLossy_congr`).

Main facts: `transcribed_decodeLossy`, `Transcribed.unique`, `take_decodeLossy_congr`.
-/
import CredentialFailover.Proofs.Text.Decoding

namespace CredentialFailover.Utf8

/-! ## Characters and ill-formed parts -/

/-- octets that some character begins with -/
def Begins (bs : List UInt8) : Prop := ∃ c, bs <+: String.utf8EncodeChar c

/-- an ill-formed part in front of the rest of a text -/
structure IllFormedPart (part rest : List UInt8) : Prop where
  nonempty : part ≠ []
  /-- no character stands there -/
  noCharacter : ∀ c, ¬ String.utf8EncodeChar c <+: part ++ rest
  begun : Begins part ∨ part.length = 1
  longest : ∀ longer, longer <+: part ++ rest → part.length < longer.length → ¬ Begins longer

/-- octets and what they are read as: each character as itself, each ill-formed part as U+FFFD -/
inductive Transcribed : List UInt8 → List Char → Prop where
  | nil : Transcribed [] []
  | character {rest : List UInt8} {cs : List Char} (c : Char) (h : Transcribed rest cs) :
      Transcribed (String.utf8EncodeChar c ++ rest) (c :: cs)
  | replaced {part rest : List UInt8} {cs : List Char} (hpart : IllFormedPart part rest) (h : Transcribed rest cs) :
      Transcribed (part ++ rest) ('\uFFFD' :: cs)

theorem Begins.of_prefix {as bs : List UInt8} (h : Begins bs) (hinitial : as <+: bs) : Begins as := by
  obtain ⟨c, hc⟩ := h
  exact ⟨c, hinitial.trans hc⟩

/-- of two ill-formed parts at one place none is longer than the other -/
theorem IllFormedPart.length_le {part rest part' rest' : List UInt8} (h : IllFormedPart part rest)
    (h' : IllFormedPart part' rest') (heq : part ++ rest = part' ++ rest') : part'.length ≤ part.length := by
  by_contra hlonger
  have hpos := List.length_pos_of_ne_nil h.nonempty
  have hnot := h.longest part' ⟨rest', heq.symm⟩ (by omega)
  rcases h'.begun with hbegins | hone
  · exact hnot hbegins
  · omega

theorem IllFormedPart.unique {part rest part' rest' : List UInt8} (h : IllFormedPart part rest)
    (h' : IllFormedPart part' rest') (heq : part ++ rest = part' ++ rest') : part = part' ∧ rest = rest' :=
  List.append_inj heq (Nat.le_antisymm (h'.length_le h heq.symm) (h.length_le h' heq))

/-- no character begins with another one -/
theorem encodeChar_append_inj {c d : Char} {as bs : List UInt8}
    (h : String.utf8EncodeChar c ++ as = String.utf8EncodeChar d ++ bs) : c = d ∧ as = bs := by
  have hrun := congrArg (run .ground) h
  rw [run_encodeChar, run_encodeChar] at hrun
  obtain rfl : c = d := Option.some.inj (List.cons.inj hrun).1
  exact ⟨rfl, List.append_cancel_left h⟩

/-- **Octets are read in one way.** -/
theorem Transcribed.unique {bs : List UInt8} {cs ds : List Char} (hc : Transcribed bs cs) (hd : Transcribed bs ds) :
    cs = ds := by
  have hsome : ∀ (c : Char) (rest : List UInt8), String.utf8EncodeChar c ++ rest ≠ [] := by
    intro c rest hnil
    have hpos := c.utf8Size_pos
    have hlength := congrArg List.length hnil
    rw [List.length_append, String.length_utf8EncodeChar] at hlength
    simp at hlength
    omega
  induction hc generalizing ds with
  | nil =>
    generalize hbs : ([] : List UInt8) = bs at hd
    cases hd with
    | nil => rfl
    | character c _ => exact absurd hbs.symm (hsome c _)
    | replaced hpart _ => exact absurd (List.append_eq_nil_iff.1 hbs.symm).1 hpart.nonempty
  | @character rest cs c _ ih =>
    generalize hbs : String.utf8EncodeChar c ++ rest = bs at hd
    cases hd with
    | nil => exact absurd hbs (hsome c _)
    | character d hd =>
      obtain ⟨rfl, rfl⟩ := encodeChar_append_inj hbs
      rw [ih hd]
    | replaced hpart _ => exact absurd ⟨rest, hbs⟩ (hpart.noCharacter c)
  | @replaced part rest cs hpart _ ih =>
    generalize hbs : part ++ rest = bs at hd
    cases hd with
    | nil => exact absurd (List.append_eq_nil_iff.1 hbs).1 hpart.nonempty
    | @character rest' ds d _ => exact absurd ⟨rest', hbs.symm⟩ (hpart.noCharacter d)
    | replaced hpart' hd =>
      obtain ⟨rfl, rfl⟩ := hpart.unique hpart' hbs
      rw [ih hd]

/-! ## What a state holds -/

/-- octets that bring the machine from the ground to a state without an item -/
def Holds (p : List UInt8) (st : State) : Prop := ∀ bs, run .ground (p ++ bs) = run st bs

theorem step_within {owed bits : ℕ} {low high b : UInt8} (h : low ≤ b ∧ b ≤ high) :
    step (.partway owed low high bits) b =
      match owed with
      | 0 => ([some (Char.ofNat (bits * 64 + (b.toNat - 0x80)))], .ground)
      | owed + 1 => ([], .partway owed 0x80 0xBF (bits * 64 + (b.toNat - 0x80))) := by
  have hin : (low ≤ b && b ≤ high) = true := by simp [h.1, h.2]
  cases owed <;> simp only [step, hin, if_true]

/-- an octet that does not continue a character ends an ill-formed part, and is read as a first one -/
theorem run_of_not_within (owed bits : ℕ) {low high b : UInt8} (h : ¬ (low ≤ b ∧ b ≤ high)) (bs : List UInt8) :
    run (.partway owed low high bits) (b :: bs) = none :: run .ground (b :: bs) := by
  have hout : (low ≤ b && b ≤ high) = false := by simpa using h
  simp [run_cons, step, hout]

theorem Holds.snoc {p : List UInt8} {owed bits : ℕ} {low high b : UInt8}
    (h : Holds p (.partway (owed + 1) low high bits)) (hb : low ≤ b ∧ b ≤ high) :
    Holds (p ++ [b]) (.partway owed 0x80 0xBF (bits * 64 + (b.toNat - 0x80))) := by
  intro bs
  rw [List.append_assoc, List.singleton_append, h, run_cons, step_within hb]
  rfl

/-- a character that is begun can be completed -/
theorem run_completed (owed bits : ℕ) {low high b : UInt8} (hb : low ≤ b ∧ b ≤ high) :
    ∃ c, run (.partway owed low high bits) (b :: List.replicate owed 0x80) = [some c] := by
  induction owed generalizing low high b bits with
  | zero =>
    refine ⟨Char.ofNat (bits * 64 + (b.toNat - 0x80)), ?_⟩
    rw [run_cons, step_within hb]
    rfl
  | succ owed ih =>
    have htail : (0x80 : UInt8) ≤ 0x80 ∧ (0x80 : UInt8) ≤ 0xBF := by decide
    obtain ⟨c, hc⟩ := ih (bits * 64 + (b.toNat - 0x80)) htail
    refine ⟨c, ?_⟩
    rw [run_cons, step_within hb, List.replicate_succ]
    exact hc

/-- octets that are read as one character are the octets of that character -/
theorem eq_encodeChar_of_run {bs : List UInt8} {c : Char} (h : run .ground bs = [some c]) :
    bs = String.utf8EncodeChar c := by
  obtain ⟨cs, rfl⟩ : ∃ cs, bs = encode cs := exists_encode (by simp [decode, h])
  have hcs : cs.map some = [some c] := (decode_encode cs).symm.trans h
  obtain rfl : cs = [c] := by simpa using hcs
  exact List.flatMap_singleton ..

/-- **An octet is within the bounds of a state exactly when some character goes on with it** behind what the state holds. -/
theorem within_iff_begins {p : List UInt8} {owed bits : ℕ} {low high : UInt8}
    (h : Holds p (.partway owed low high bits)) (b : UInt8) : (low ≤ b ∧ b ≤ high) ↔ Begins (p ++ [b]) := by
  constructor
  · intro hb
    obtain ⟨c, hc⟩ := run_completed owed bits hb
    rw [← h] at hc
    refine ⟨c, List.replicate owed 0x80, ?_⟩
    rw [← eq_encodeChar_of_run hc, List.append_assoc, List.singleton_append]
  · rintro ⟨c, q, hq⟩
    by_contra hb
    have hrun := run_encodeChar c []
    rw [List.append_nil, ← hq, List.append_assoc, List.singleton_append, h, run_of_not_within owed bits hb] at hrun
    exact absurd (List.cons.inj hrun).1 (by simp)

/-- where the machine finds an ill-formed part, no character stands -/
theorem noCharacter_of_run {bs : List UInt8} {items : List Item} (h : run .ground bs = none :: items) (c : Char) :
    ¬ String.utf8EncodeChar c <+: bs := by
  rintro ⟨rest, rfl⟩
  rw [run_encodeChar] at h
  exact absurd (List.cons.inj h).1 (by simp)

/-! ## The parts that the machine finds -/

/-- how the machine reads on: a character, or an ill-formed part, and then what follows it -/
def Parted (bs : List UInt8) (items : List Item) : Prop :=
  (∃ c rest, bs = String.utf8EncodeChar c ++ rest ∧ items = some c :: run .ground rest) ∨
    ∃ part rest, bs = part ++ rest ∧ IllFormedPart part rest ∧ items = none :: run .ground rest

/-- a part that is begun ends where no character goes on with it, or with the text -/
theorem parted_of_holds {p : List UInt8} {owed bits : ℕ} {low high : UInt8}
    (h : Holds p (.partway owed low high bits)) (hp : p ≠ []) (hbegins : Begins p) (bs : List UInt8) :
    Parted (p ++ bs) (run (.partway owed low high bits) bs) := by
  induction bs generalizing p owed low high bits with
  | nil =>
    refine Or.inr ⟨p, [], rfl, ⟨hp, ?_, Or.inl hbegins, ?_⟩, rfl⟩
    · exact noCharacter_of_run (h [])
    · intro longer hlonger hlength
      rw [List.append_nil] at hlonger
      exact absurd hlonger.length_le (by omega)
  | cons b bs ih =>
    by_cases hb : low ≤ b ∧ b ≤ high
    · cases owed with
      | zero =>
        have hlast : run .ground (p ++ [b]) = [some (Char.ofNat (bits * 64 + (b.toNat - 0x80)))] := by
          rw [h, run_cons, step_within hb]
          rfl
        refine Or.inl ⟨Char.ofNat (bits * 64 + (b.toNat - 0x80)), bs, ?_, ?_⟩
        · rw [← eq_encodeChar_of_run hlast, List.append_assoc, List.singleton_append]
        · rw [run_cons, step_within hb]
          rfl
      | succ owed =>
        have hnext := ih (h.snoc hb) (by simp) ((within_iff_begins h b).1 hb)
        rw [List.append_assoc, List.singleton_append] at hnext
        rw [run_cons, step_within hb]
        exact hnext
    · have hrun := run_of_not_within owed bits hb bs
      refine Or.inr ⟨p, b :: bs, rfl, ⟨hp, ?_, Or.inl hbegins, ?_⟩, hrun⟩
      · exact noCharacter_of_run ((h (b :: bs)).trans hrun)
      · intro longer hlonger hlength hgoes
        have hb' : p ++ [b] <+: p ++ b :: bs := ⟨bs, by simp⟩
        have hshort : p ++ [b] <+: longer := List.prefix_of_prefix_length_le hb' hlonger (by simpa using hlength)
        exact hb ((within_iff_begins h b).2 (hgoes.of_prefix hshort))

/-- what becomes of a first octet: it is a character, begins one, or is an ill-formed part -/
inductive Opening (b : UInt8) : List Item × State → Prop where
  | character {c : Char} (h : String.utf8EncodeChar c = [b]) : Opening b ([some c], .ground)
  | begun {owed bits : ℕ} {low high : UInt8} (howed : owed ≤ 2) (hbounds : low ≤ high) :
      Opening b ([], .partway owed low high bits)
  | illFormed : Opening b ([none], .ground)

theorem opening_begin (b : UInt8) : Opening b (begin b) := by
  unfold begin
  split_ifs with hascii
  · refine .character ?_
    rw [encodeChar_of_one (UInt8.lt_iff_toNat_lt.1 hascii), UInt8.ofNat_toNat]
  any_goals exact .begun (by decide) (by decide)
  exact .illFormed

theorem parted_run (b : UInt8) (bs : List UInt8) : Parted (b :: bs) (run .ground (b :: bs)) := by
  have hrun : ∀ bs, run .ground (b :: bs) = (begin b).1 ++ run (begin b).2 bs := fun bs => run_cons .ground b bs
  have hopening := opening_begin b
  generalize hbegin : begin b = opened at hopening
  cases hopening with
  | @character c hc =>
    refine Or.inl ⟨c, bs, by rw [hc]; rfl, ?_⟩
    rw [hrun, hbegin]
    rfl
  | @begun owed bits low high _ hbounds =>
    have hholds : Holds [b] (.partway owed low high bits) := by
      intro bs
      rw [List.singleton_append, hrun, hbegin]
      rfl
    have hlow : Begins ([b] ++ [low]) := (within_iff_begins hholds low).1 ⟨UInt8.le_refl low, hbounds⟩
    have hparted := parted_of_holds hholds (by simp) (hlow.of_prefix ⟨[low], rfl⟩) bs
    rwa [← hholds bs] at hparted
  | illFormed =>
    have hnone : ∀ bs, run .ground (b :: bs) = none :: run .ground bs := by
      intro bs
      rw [hrun, hbegin]
      rfl
    refine Or.inr ⟨[b], bs, rfl, ⟨by simp, ?_, Or.inr rfl, ?_⟩, hnone bs⟩
    · exact noCharacter_of_run (hnone bs)
    · intro longer hlonger hlength hgoes
      have hshort : [b] <+: longer :=
        List.prefix_of_prefix_length_le ⟨bs, rfl⟩ hlonger (Nat.le_of_lt hlength)
      obtain ⟨c, q, hq⟩ := hgoes.of_prefix hshort
      exact noCharacter_of_run (hnone q) c ⟨[], by rw [List.append_nil, ← hq]; rfl⟩

/-- **Lossy decoding reads each character as itself and puts U+FFFD for each ill-formed part.** -/
theorem transcribed_decodeLossy (bs : List UInt8) : Transcribed bs (decodeLossy bs) := by
  induction hlength : bs.length using Nat.strongRecOn generalizing bs with
  | ind length ih =>
    cases bs with
    | nil => exact Transcribed.nil
    | cons b bs =>
      rcases parted_run b bs with ⟨c, rest, hsplit, hrun⟩ | ⟨part, rest, hsplit, hpart, hrun⟩
      · have hpos : 0 < (String.utf8EncodeChar c).length := by
          rw [String.length_utf8EncodeChar]
          exact c.utf8Size_pos
        have hsum := congrArg List.length hsplit
        rw [List.length_append] at hsum
        have hdecode : decodeLossy (b :: bs) = c :: decodeLossy rest := by rw [decodeLossy, decode, hrun]; rfl
        rw [hdecode, hsplit]
        exact Transcribed.character c (ih rest.length (by omega) rest rfl)
      · have hpos := List.length_pos_of_ne_nil hpart.nonempty
        have hsum := congrArg List.length hsplit
        rw [List.length_append] at hsum
        have hdecode : decodeLossy (b :: bs) = '\uFFFD' :: decodeLossy rest := by rw [decodeLossy, decode, hrun]; rfl
        rw [hdecode, hsplit]
        exact Transcribed.replaced hpart (ih rest.length (by omega) rest rfl)

/-! ## Looking ahead -/

/-- how many octets from a state on decide so many items -/
def reach : State → ℕ → ℕ
  | _, 0 => 0
  | .ground, n + 1 => 4 * (n + 1)
  | .partway owed _ _ _, n + 1 => owed + 1 + 4 * n

@[simp] theorem reach_zero (st : State) : reach st 0 = 0 := by cases st <;> rfl

theorem reach_ground (n : ℕ) : reach .ground n = 4 * n := by cases n <;> rfl

theorem reach_partway (owed bits n : ℕ) (low high : UInt8) :
    reach (.partway owed low high bits) (n + 1) = owed + 1 + 4 * n := rfl

theorem reach_begin (b : UInt8) (n : ℕ) : reach (begin b).2 (n + 1 - (begin b).1.length) ≤ 4 * n + 3 := by
  have hopening := opening_begin b
  generalize begin b = opened at hopening
  cases hopening with
  | character | illFormed =>
    have hitems : n + 1 - 1 = n := Nat.add_sub_cancel ..
    rw [List.length_singleton, hitems, reach_ground]
    omega
  | begun howed _ =>
    rw [List.length_nil, Nat.sub_zero, reach_partway]
    omega

/-- an octet uses up one of those that decide -/
theorem reach_step (st : State) (b : UInt8) (n : ℕ) :
    reach (step st b).2 (n + 1 - (step st b).1.length) < reach st (n + 1) := by
  cases st with
  | ground =>
    have hbegin := reach_begin b n
    rw [reach_ground]
    exact Nat.lt_of_le_of_lt hbegin (by omega)
  | partway owed low high bits =>
    rw [reach_partway]
    by_cases hb : low ≤ b ∧ b ≤ high
    · rw [step_within hb]
      cases owed <;> simp [reach_ground, reach_partway]
    · have hout : (low ≤ b && b ≤ high) = false := by simpa using hb
      have hitems : n + 1 - ((begin b).1.length + 1) = n - (begin b).1.length := by omega
      simp only [step, hout, Bool.false_eq_true, if_false, List.length_cons, hitems]
      cases n with
      | zero => simp
      | succ n =>
        have hbegin := reach_begin b n
        omega

/-- items are decided by the octets within reach -/
theorem take_run_congr {st : State} {as bs : List UInt8} {n : ℕ}
    (h : as.take (reach st n) = bs.take (reach st n)) : (run st as).take n = (run st bs).take n := by
  induction as generalizing st bs n with
  | nil =>
    cases n with
    | zero => rfl
    | succ n =>
      have hpos : reach st (n + 1) ≠ 0 := by cases st <;> simp [reach_ground, reach_partway]
      have hnil : bs = [] := by simpa [hpos] using h.symm
      rw [hnil]
  | cons a as ih =>
    cases n with
    | zero => simp
    | succ n =>
      have hstep := reach_step st a n
      cases bs with
      | nil =>
        have hpos : reach st (n + 1) ≠ 0 := by omega
        simp [hpos] at h
      | cons b bs =>
        rw [show reach st (n + 1) = reach st (n + 1) - 1 + 1 by omega, List.take_succ_cons, List.take_succ_cons] at h
        obtain ⟨rfl, hrest⟩ := List.cons.inj h
        have hnext := congrArg (List.take (reach (step st a).2 (n + 1 - (step st a).1.length))) hrest
        rw [List.take_take, List.take_take, Nat.min_eq_left (by omega)] at hnext
        rw [run_cons, run_cons, List.take_append, List.take_append, ih hnext]

/-- texts that agree on so many times four octets have so many items in common -/
theorem take_decodeLossy_congr {as bs : List UInt8} {n : ℕ} (h : as.take (4 * n) = bs.take (4 * n)) :
    (decodeLossy as).take n = (decodeLossy bs).take n := by
  have hitems : (decode as).take n = (decode bs).take n := take_run_congr (by rwa [reach_ground])
  rw [decodeLossy, decodeLossy, ← List.map_take, ← List.map_take, hitems]

end CredentialFailover.Utf8
