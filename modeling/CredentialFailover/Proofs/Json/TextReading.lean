/-
A text is read from every spelling of it.

The scan of a text goes from a resting point to the next over the spelling of each character and gives the octets of that
character (`scans_of_char`); what has been gathered at the closing quotation mark is the UTF-8 of the whole text.

Main fact: `text_of_spelling`.
-/
import CredentialFailover.Proofs.Json.Spelling
import CredentialFailover.Proofs.Text.Encoding

namespace CredentialFailover.Json

open Ascii

/-! ## Scanning -/

theorem Scans.nil (st : Scan) : Scans st [] [] st := ⟨rfl, rfl⟩

/-- one octet that does not close the text, and then the others -/
theorem Scans.cons {st next st' : Scan} {b : UInt8} {bs first more : List UInt8} (hopen : st ≠ .resting ∨ b ≠ quote)
    (hstep : scanStep st b = .ok (first, next)) (hmore : Scans next bs more st') :
    Scans st (b :: bs) (first ++ more) st' :=
  ⟨fun h => hopen.elim (fun hst => hst h.1) fun hb => hb h.2, first, more, next, hstep, hmore, rfl⟩

theorem Scans.append {st st' st'' : Scan} {as bs out more : List UInt8} (ha : Scans st as out st')
    (hb : Scans st' bs more st'') : Scans st (as ++ bs) (out ++ more) st'' := by
  induction as generalizing st out with
  | nil =>
    obtain ⟨rfl, rfl⟩ := ha
    exact hb
  | cons a as ih =>
    obtain ⟨hopen, first, rest, next, hstep, hrest, rfl⟩ := ha
    rw [List.cons_append, List.append_assoc]
    exact ⟨hopen, first, rest ++ more, next, hstep, ih hrest, rfl⟩

/-- octets that stand for themselves -/
theorem scans_of_plain {bs : List UInt8} (h : ∀ b ∈ bs, b ≠ quote ∧ b ≠ backslash ∧ space ≤ b) :
    Scans .resting bs bs .resting := by
  induction bs with
  | nil => exact Scans.nil _
  | cons b bs ih =>
    obtain ⟨hquote, hbackslash, hspace⟩ := h b (List.mem_cons_self ..)
    have hstep : scanStep .resting b = .ok ([b], .resting) := by
      have hnlt : ¬ b < space := UInt8.not_lt.2 hspace
      simp [scanStep, hbackslash, hnlt]
    exact Scans.cons (Or.inr hquote) hstep (ih fun c hc => h c (List.mem_cons_of_mem _ hc))

/-- a short escape gives the octet it names -/
theorem scans_of_shortEscape {e b : UInt8} (he : e ≠ lowerU) (h : shortEscape? e = some b) :
    Scans .resting [backslash, e] [b] .resting := by
  have hopened : scanStep .resting backslash = .ok ([], .escaped) := rfl
  have hstep : scanStep .escaped e = .ok ([b], .resting) := by simp [scanStep, he, h]
  refine Scans.cons (Or.inr ?_) hopened (Scans.cons (Or.inl ?_) hstep (Scans.nil _)) <;> decide

/-- four digits give what their number means, alone or after a first half -/
theorem scans_of_digits {n : ℕ} {ds out : List UInt8} {lead : Option ℕ} {st : Scan} (hds : FourDigits n ds)
    (h : escapeValue n lead = .ok (out, st)) : Scans (.digits 0 (some 0) lead) ds out st := by
  obtain @⟨a, b, c, d, i, j, k, l, ha, hb, hc, hd⟩ := hds
  have h0 : scanStep (.digits 0 (some 0) lead) a = .ok ([], .digits 1 (some i) lead) := by simp [scanStep, hexStep, ha]
  have h1 : scanStep (.digits 1 (some i) lead) b = .ok ([], .digits 2 (some (i * 16 + j)) lead) := by
    simp [scanStep, hexStep, hb]
  have h2 : scanStep (.digits 2 (some (i * 16 + j)) lead) c = .ok ([], .digits 3 (some ((i * 16 + j) * 16 + k)) lead) := by
    simp [scanStep, hexStep, hc]
  have h3 : scanStep (.digits 3 (some ((i * 16 + j) * 16 + k)) lead) d = .ok (out, st) := by
    simpa [scanStep, hexStep, hd] using h
  have hlast := Scans.cons (Or.inl (by simp)) h3 (Scans.nil _)
  rw [List.append_nil] at hlast
  exact Scans.cons (Or.inl (by simp)) h0 (Scans.cons (Or.inl (by simp)) h1 (Scans.cons (Or.inl (by simp)) h2 hlast))

/-- the digits of an escape, from its backslash on -/
theorem scans_of_escape {n : ℕ} {ds out : List UInt8} {st : Scan} (hds : FourDigits n ds)
    (h : escapeValue n none = .ok (out, st)) : Scans .resting (backslash :: lowerU :: ds) out st := by
  have hopened : scanStep .resting backslash = .ok ([], .escaped) := rfl
  have hdigits : scanStep .escaped lowerU = .ok ([], .digits 0 (some 0) none) := rfl
  refine Scans.cons (Or.inr ?_) hopened (Scans.cons (Or.inl ?_) hdigits (scans_of_digits hds h)) <;> decide

/-- the digits of a second half, after the first one -/
theorem scans_of_trail {lead n : ℕ} {ds out : List UInt8} {st : Scan} (hds : FourDigits n ds)
    (h : escapeValue n (some lead) = .ok (out, st)) : Scans (.paired lead) (backslash :: lowerU :: ds) out st := by
  have hopened : scanStep (.paired lead) backslash = .ok ([], .pairedEscape lead) := rfl
  have hdigits : scanStep (.pairedEscape lead) lowerU = .ok ([], .digits 0 (some 0) (some lead)) := rfl
  exact Scans.cons (Or.inl (by simp)) hopened (Scans.cons (Or.inl (by simp)) hdigits (scans_of_digits hds h))

/-! ## Characters -/

/-- an octet of a character that may stand for itself closes nothing, escapes nothing and is no control character -/
theorem plain_of_mem_encodeChar {c : Char} (hleast : 0x20 ≤ c.toNat) (hquote : c ≠ '"') (hbackslash : c ≠ '\\')
    {b : UInt8} (hb : b ∈ String.utf8EncodeChar c) : b ≠ quote ∧ b ≠ backslash ∧ space ≤ b := by
  have hq : c.toNat ≠ 0x22 := fun h => hquote (Char.toNat_inj.1 h)
  have hbs : c.toNat ≠ 0x5C := fun h => hbackslash (Char.toNat_inj.1 h)
  -- a single octet is the code point itself, every other octet is beyond ASCII
  have hvalue : b.toNat = c.toNat ∨ 0x80 ≤ b.toNat := by
    simp only [String.utf8EncodeChar, Char.toNat_val] at hb
    split_ifs at hb <;> simp only [List.mem_cons, List.not_mem_nil, or_false] at hb <;>
      rcases hb with rfl | rfl | rfl | rfl <;> simp only [UInt8.toNat_ofNat'] <;> omega
  have hne : ∀ d : UInt8, b = d → b.toNat = d.toNat := fun d h => congrArg _ h
  refine ⟨?_, ?_, UInt8.le_iff_toNat_le.2 ?_⟩
  · intro h
    have : b.toNat = 0x22 := hne _ h
    omega
  · intro h
    have : b.toNat = 0x5C := hne _ h
    omega
  · have : space.toNat = 0x20 := rfl
    omega

/-- a short escape names the one octet of its character -/
theorem scans_of_short {c : Char} {e : UInt8} (h : (e, c) ∈ shortEscapes) :
    Scans .resting [backslash, e] (String.utf8EncodeChar c) .resting := by
  simp only [shortEscapes, List.mem_cons, Prod.mk.injEq, List.not_mem_nil, or_false] at h
  rcases h with ⟨rfl, rfl⟩ | ⟨rfl, rfl⟩ | ⟨rfl, rfl⟩ | ⟨rfl, rfl⟩ | ⟨rfl, rfl⟩ | ⟨rfl, rfl⟩ | ⟨rfl, rfl⟩ | ⟨rfl, rfl⟩ <;>
    exact scans_of_shortEscape (by decide) rfl

/-- every spelling of a character gives its octets -/
theorem scans_of_char {c : Char} {bs : List UInt8} (h : CharSpelling c bs) :
    Scans .resting bs (String.utf8EncodeChar c) .resting := by
  have hvalid : c.toNat < 0xD800 ∨ (0xDFFF < c.toNat ∧ c.toNat < 0x110000) := c.valid
  cases h with
  | plain hleast hquote hbackslash =>
    exact scans_of_plain fun b hb => plain_of_mem_encodeChar hleast hquote hbackslash hb
  | short h => exact scans_of_short h
  | escape hds =>
    refine scans_of_escape hds ?_
    have htrail : isTrail c.toNat = false := by simp [isTrail]; omega
    have hlead : isLead c.toNat = false := by simp [isLead]; omega
    simp [escapeValue, htrail, hlead, Char.ofNat_toNat]
  | pair hhigh hlow hc hds hes =>
    rename_i high low ds es
    have hfirst : escapeValue (0xD800 + high) none = .ok ([], .paired (0xD800 + high)) := by
      have htrail : isTrail (0xD800 + high) = false := by simp [isTrail]; omega
      have hlead : isLead (0xD800 + high) = true := by simp [isLead]; omega
      simp [escapeValue, htrail, hlead]
    have hsecond : escapeValue (0xDC00 + low) (some (0xD800 + high)) = .ok (String.utf8EncodeChar c, .resting) := by
      have htrail : isTrail (0xDC00 + low) = true := by simp [isTrail]; omega
      have hjoined : joined (0xD800 + high) (0xDC00 + low) = c := by
        have hcode : 0x10000 + (0xD800 + high - 0xD800) * 0x400 + (0xDC00 + low - 0xDC00) = c.toNat := by omega
        rw [joined, hcode, Char.ofNat_toNat]
      simp [escapeValue, htrail, hjoined]
    exact (scans_of_escape hds hfirst).append (scans_of_trail hes hsecond)

/-! ## Texts -/

theorem scans_of_chars {cs : List Char} {bs : List UInt8} (h : CharsSpelling cs bs) :
    Scans .resting bs (Utf8.encode cs) .resting := by
  induction h with
  | nil => exact Scans.nil _
  | cons hc _ ih => exact (scans_of_char hc).append ih

/-- **Every spelling of a text is read as that text.** -/
theorem text_of_spelling {s : String} {bs : List UInt8} (h : CharsSpelling s.toList bs) (rest : List UInt8) :
    text (bs ++ quote :: rest) = .ok (s, rest) := by
  have hclose : scan .resting (quote :: rest) = .ok ([], rest) := by simp [scan]
  have hscan : scan .resting (bs ++ quote :: rest) = .ok (Utf8.encode s.toList, rest) := by
    rw [scan_append_of_scans (scans_of_chars h), hclose]
    simp only [List.append_nil]
  simp only [text, hscan, Utf8.decode?_encode, String.ofList_toList]

end CredentialFailover.Json
