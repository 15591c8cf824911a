/-
What a snippet quotes, and of how much of a body it is made.

With the text that the body is read as: the snippet has its first 240 characters, each in its place, with a space where
there was a line break or a tab, and it goes on with three dots exactly when the text goes on (`quotes_chars`). So it is on
one line and has 243 characters at most.

Whether the text goes on shows at its 241st character, and 241 characters are decided by 964 octets, wherever that cut
falls in a character or in an ill-formed part (`ofBody_congr`).

Main fact: `ofBody_quotes`.
-/
import CredentialFailover.Proofs.Text.Replacement
import CredentialFailover.Response.Snippet

namespace CredentialFailover.Snippet

/-- a text quoted on one line, with three dots for what is left out -/
structure Quotes (t snippet : List Char) : Prop where
  oneLine : ∀ c ∈ snippet, c ≠ '\r' ∧ c ≠ '\n' ∧ c ≠ '\t'
  /-- the characters of the text stand in their places, a space standing for line breaks and tabs -/
  faithful : ∀ i c, i < 240 → t[i]? = some c →
    snippet[i]? = some (if c = '\r' ∨ c = '\n' ∨ c = '\t' then ' ' else c)
  short : t.length ≤ 240 → snippet.length = t.length
  long : 240 < t.length → snippet.drop 240 = ['.', '.', '.']
  bounded : snippet.length ≤ 243

/-! ## Quoting a text -/

theorem onOneLine_eq (c : Char) : onOneLine c = if c = '\r' ∨ c = '\n' ∨ c = '\t' then ' ' else c := by
  simp only [onOneLine, Bool.or_eq_true, beq_iff_eq, or_assoc]

theorem onOneLine_ne (c : Char) : onOneLine c ≠ '\r' ∧ onOneLine c ≠ '\n' ∧ onOneLine c ≠ '\t' := by
  rw [onOneLine_eq]
  split_ifs with h
  · decide
  · rw [not_or, not_or] at h
    exact h

theorem onOneLine_of_printing {c : Char} (h : 0x20 ≤ c.toNat) : onOneLine c = c := by
  rw [onOneLine_eq, if_neg]
  rintro (rfl | rfl | rfl) <;> exact absurd h (by decide)

theorem chars_of_le {t : List Char} (h : t.length ≤ limit) : chars t = t.map onOneLine := by
  rw [chars, if_neg (not_lt.2 h), List.append_nil, List.take_of_length_le h]

theorem chars_of_lt {t : List Char} (h : limit < t.length) :
    chars t = (t.take limit).map onOneLine ++ ['.', '.', '.'] := by
  rw [chars, if_pos h]

/-- what is quoted stands where it stood in the text -/
theorem getElem?_chars {t : List Char} {i : ℕ} (hi : i < limit) {c : Char} (hc : t[i]? = some c) :
    (chars t)[i]? = some (onOneLine c) := by
  have hlength : i < t.length := (List.getElem?_eq_some_iff.1 hc).1
  have hquoted : ((t.take limit).map onOneLine)[i]? = some (onOneLine c) := by
    rw [List.getElem?_map, List.getElem?_take_of_lt hi, hc]
    rfl
  rw [chars, List.getElem?_append_left]
  · exact hquoted
  · rw [List.length_map, List.length_take]
    omega

/-- printing characters within what is quoted are quoted as they stand -/
theorem infix_chars {front part behind : List Char} (hlength : (front ++ part).length ≤ limit)
    (hprinting : ∀ c ∈ part, 0x20 ≤ c.toNat) : part <:+: chars (front ++ part ++ behind) := by
  have hself : part.map onOneLine = part :=
    (List.map_congr_left fun c hc => onOneLine_of_printing (hprinting c hc)).trans (List.map_id part)
  have htake : (front ++ part ++ behind).take limit = front ++ part ++ behind.take (limit - (front ++ part).length) := by
    rw [List.take_append, List.take_of_length_le hlength]
  rw [chars, htake, List.map_append, List.map_append, hself, List.append_assoc (_ ++ part)]
  exact ⟨_, _, rfl⟩

theorem quotes_chars (t : List Char) : Quotes t (chars t) where
  oneLine := by
    intro c hc
    rw [chars, List.mem_append] at hc
    rcases hc with hc | hc
    · obtain ⟨d, -, rfl⟩ := List.mem_map.1 hc
      exact onOneLine_ne d
    · have hdots : c ∈ ['.', '.', '.'] := by
        split_ifs at hc with hlong
        · exact hc
        · cases hc
      obtain rfl : c = '.' := by simpa using hdots
      decide
  faithful := by
    intro i c hi hc
    rw [← onOneLine_eq]
    exact getElem?_chars hi hc
  short := by
    intro h
    rw [chars_of_le h, List.length_map]
  long := by
    intro h
    rw [chars_of_lt h, List.drop_left']
    rw [List.length_map, List.length_take]
    exact Nat.min_eq_left h.le
  bounded := by
    rcases Nat.lt_or_ge limit t.length with h | h
    · have htake := List.length_take_le limit t
      rw [chars_of_lt h, List.length_append, List.length_map]
      exact Nat.add_le_add_right htake 3
    · rw [chars_of_le h, List.length_map]
      exact h.trans (by decide)

/-! ## Quoting a body -/

/-- one character more than are quoted decides the snippet of a text -/
theorem chars_congr {t u : List Char} (h : t.take (limit + 1) = u.take (limit + 1)) : chars t = chars u := by
  have hquoted : t.take limit = u.take limit := by
    have hfewer := congrArg (List.take limit) h
    rwa [List.take_take, List.take_take, Nat.min_eq_left (Nat.le_succ limit)] at hfewer
  have hgoes : limit < t.length ↔ limit < u.length := by
    have hlength := congrArg List.length h
    rw [List.length_take, List.length_take] at hlength
    omega
  rw [chars, chars, hquoted, if_congr hgoes rfl rfl]

/-- four octets for each character that is quoted, and four for the next one, decide the snippet of a body -/
theorem ofBody_congr {body other : List UInt8} (h : other.take 964 = body.take 964) : ofBody other = ofBody body := by
  have hitems : (Utf8.decodeLossy other).take (limit + 1) = (Utf8.decodeLossy body).take (limit + 1) :=
    Utf8.take_decodeLossy_congr h
  rw [ofBody, ofBody, chars_congr hitems]

/-- the snippet of a body that is the octets of a text -/
theorem ofBody_bytes (cs : List Char) : ofBody (Utf8.bytes (String.ofList cs)) = String.ofList (chars cs) := by
  have hchars : (cs.map some).map Utf8.Item.char = cs := by
    rw [List.map_map]
    exact List.map_id cs
  rw [ofBody, Utf8.bytes, String.toList_ofList, Utf8.decodeLossy, Utf8.decode_encode, hchars]

/-- **A snippet quotes the text that its body is read as**, of which there is one, and is decided by the first 964 octets. -/
theorem ofBody_quotes (body : List UInt8) :
    (∃! t, Utf8.Transcribed body t) ∧ (∀ t, Utf8.Transcribed body t → Quotes t (ofBody body).toList) ∧
      ∀ other : List UInt8, other.take 964 = body.take 964 → ofBody other = ofBody body := by
  have hread : Utf8.Transcribed body (Utf8.decodeLossy body) := Utf8.transcribed_decodeLossy body
  refine ⟨⟨_, hread, ?_⟩, ?_, ?_⟩
  · intro t ht
    exact ht.unique hread
  · intro t ht
    rw [ht.unique hread, ofBody, String.toList_ofList]
    exact quotes_chars _
  · intro other h
    exact ofBody_congr h

/-- the first three octets of a character beyond the basic plane, right before the cut -/
def straddling : List UInt8 := List.replicate 961 0x61 ++ [0xF0, 0x9D, 0x84]

theorem ofBody_quotes_straddling :
    ofBody (straddling ++ [0x9E]) = ofBody (straddling ++ [0x0A, 0xFF]) ∧
      (ofBody (straddling ++ [0x9E])).toList.length ≤ 243 := by
  have hlength : straddling.length = 964 := by
    rw [straddling, List.length_append, List.length_replicate]
    rfl
  have htake : ∀ after : List UInt8, (straddling ++ after).take 964 = straddling := fun after => List.take_left' hlength
  obtain ⟨⟨t, ht, -⟩, hquotes, hlocal⟩ := ofBody_quotes (straddling ++ [0x0A, 0xFF])
  refine ⟨hlocal _ ((htake _).trans (htake _).symm), ?_⟩
  rw [hlocal _ ((htake [0x9E]).trans (htake _).symm)]
  exact (hquotes t ht).bounded

end CredentialFailover.Snippet
