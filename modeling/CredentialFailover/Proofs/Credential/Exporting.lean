/-
The headers of an accepted credential are the texts of its document.

A credential keeps eight of the ten texts as they are. The client time goes through a time and the routing number through an
integer, and both are written again when the headers are listed. A time is written just as it was read, so nine headers are
the texts of the document; the tenth is the decimal form of the integer that was read. Of its document a credential has
forgotten nothing under the ten keys but how that integer was spelled: two documents give the same credential exactly if they
agree in the nine texts and in the integer, and the headers, read again, give the credential they were listed from.

Main facts: `isDecimal_iff`, `exported_headers` (the headers of a document), `eq_iff_agree` (which documents give the same),
`headers_keep_document`.
-/
import CredentialFailover.Proofs.Credential.Acceptance
import CredentialFailover.Proofs.Credential.Rendering
import CredentialFailover.Proofs.Text.FixedWidth

namespace CredentialFailover

/-! ## Decimal forms -/

namespace Text

/-- the decimal form of an integer: a minus if it is negative, and digits, a zero in front only if it is the whole -/
def IsDecimal (s : String) (n : ℤ) : Prop :=
  ∃ digits, s.toList = (if n < 0 then ['-'] else []) ++ digits ∧ digits ≠ [] ∧ (∀ c ∈ digits, c.isDigit = true) ∧
    (digits.head? = some '0' → digits = ['0']) ∧ Nat.ofDigitChars 10 digits 0 = n.natAbs

/-- digits behind those of a positive number go on with its digits -/
theorem toDigits_append {n : ℕ} (hn : 0 < n) {cs : List Char} (hcs : ∀ c ∈ cs, c.isDigit = true) :
    Nat.toDigits 10 n ++ cs = Nat.toDigits 10 (Nat.ofDigitChars 10 cs n) := by
  induction cs generalizing n with
  | nil => simp
  | cons c cs ih =>
    obtain ⟨hlt, hc⟩ := digitChar_of_between (isDigit_iff_between.1 (hcs c (List.mem_cons_self ..)))
    have hone : Nat.toDigits 10 n ++ [c] = Nat.toDigits 10 (10 * n + (c.toNat - '0'.toNat)) := by
      rw [← Nat.toDigits_append_toDigits (by decide) hn hlt, Nat.toDigits_of_lt_base hlt, hc]
    calc Nat.toDigits 10 n ++ c :: cs
        = (Nat.toDigits 10 n ++ [c]) ++ cs := by simp
      _ = Nat.toDigits 10 (10 * n + (c.toNat - '0'.toNat)) ++ cs := by rw [hone]
      _ = Nat.toDigits 10 (Nat.ofDigitChars 10 (c :: cs) n) :=
        ih (by omega) fun d hd => hcs d (List.mem_cons_of_mem _ hd)

/-- digits without a zero in front are those of the number they denote -/
theorem toDigits_ofDigitChars {c : Char} {cs : List Char} (hdigits : ∀ d ∈ c :: cs, d.isDigit = true) (hc : c ≠ '0') :
    Nat.toDigits 10 (Nat.ofDigitChars 10 (c :: cs) 0) = c :: cs := by
  obtain ⟨hlt, hself⟩ := digitChar_of_between (isDigit_iff_between.1 (hdigits c (List.mem_cons_self ..)))
  have hpos : 0 < c.toNat - '0'.toNat := by
    refine Nat.pos_of_ne_zero fun hzero => hc ?_
    rw [← hself, hzero]
    rfl
  have hgo := toDigits_append hpos fun d hd => hdigits d (List.mem_cons_of_mem _ hd)
  rw [Nat.ofDigitChars_cons, Nat.mul_zero, Nat.zero_add, ← hgo, Nat.toDigits_of_lt_base hlt, hself,
    List.singleton_append]

/-- **The decimal form of an integer is the one that it is written in**, and there is no other. -/
theorem isDecimal_iff {s : String} {n : ℤ} : IsDecimal s n ↔ s = toString n := by
  have hwritten : (toString n).toList = (if n < 0 then ['-'] else []) ++ Nat.toDigits 10 n.natAbs := by
    by_cases hn : n < 0
    · rw [if_pos hn, toList_toString_of_neg hn, List.singleton_append]
    · rw [if_neg hn, toList_toString_of_nonneg (not_lt.1 hn), List.nil_append]
  constructor
  · rintro ⟨digits, hs, hne, hdigits, hzero, hvalue⟩
    refine String.toList_inj.1 ?_
    rw [hs, hwritten, ← hvalue]
    obtain ⟨c, cs, rfl⟩ := List.exists_cons_of_ne_nil hne
    by_cases hc : c = '0'
    · rw [hzero (congrArg some hc)]
      rfl
    · rw [toDigits_ofDigitChars hdigits hc]
  · rintro rfl
    refine ⟨_, hwritten, Nat.toDigits_ne_nil, fun c hc => isDigit_of_mem_toDigits hc, ?_, Nat.ofDigitChars_ten_toDigits⟩
    intro hfront
    rcases Nat.eq_zero_or_pos n.natAbs with hn | hn
    · rw [hn]
      rfl
    · obtain ⟨c, cs, hcs, hc⟩ := exists_toDigits hn
      rw [hcs] at hfront
      exact absurd (Option.some.inj hfront) hc

end Text

/-! ## Integers in front of texts -/

namespace RoutingNumber

/-- a text begins with an integer, and this is the one nearest to it in 64 bits with sign -/
def Leads (raw : String) (n : ℤ) : Prop :=
  ∃ blanks mark digits rest, Front blanks mark digits rest raw.toList ∧
    n = max (-2 ^ 63) (min (denoted mark digits) (2 ^ 63 - 1))

theorem leads_iff {raw : String} {n : ℤ} : Leads raw n ↔ leading raw = n := by
  constructor
  · rintro ⟨_, _, _, _, hfront, rfl⟩
    rw [leading_of_split hfront, foldl_push_denoted]
  · rintro rfl
    obtain ⟨blanks, mark, digits, rest, hfront⟩ := exists_front raw.toList
    refine ⟨blanks, mark, digits, rest, hfront, ?_⟩
    rw [leading_of_split hfront, foldl_push_denoted]

end RoutingNumber

namespace Credential

open RoutingNumber (Leads leads_iff)
open Text (IsDecimal isDecimal_iff)

/-! ## The headers of a document -/

/-- the ten names, in the order in which they are listed -/
def names : List String :=
  ["X-Apple-I-MD-M", "X-Apple-I-MD", "X-Apple-I-MD-LU", "X-Apple-I-MD-RINFO", "X-Mme-Device-Id", "X-Apple-I-SRL-NO",
    "X-MMe-Client-Info", "X-Apple-I-Client-Time", "X-Apple-Locale", "X-Apple-I-TimeZone"]

/-- the name whose text is an integer -/
def integerName : String := "X-Apple-I-MD-RINFO"

/-- the headers of an object: its text under each of the ten names, but under one the decimal form of the integer that the
text begins with -/
structure Exported (ms : List (String × Json.Value)) (hs : List (String × String)) : Prop where
  names : hs.map Prod.fst = names
  same : ∀ h ∈ hs, h.1 ≠ integerName → Keyed.get? h.1 ms = some (.text h.2)
  integer : ∀ h ∈ hs, h.1 = integerName →
    ∃ raw n, Keyed.get? h.1 ms = some (.text raw) ∧ Leads raw n ∧ IsDecimal h.2 n

/-- two objects have the same texts under nine names, and texts that begin with the same integer under the tenth -/
structure Agree (ms ms' : List (String × Json.Value)) : Prop where
  same : ∀ name ∈ names, name ≠ integerName → Keyed.get? name ms = Keyed.get? name ms'
  integer : ∃ raw raw' n, Keyed.get? integerName ms = some (.text raw) ∧ Keyed.get? integerName ms' = some (.text raw') ∧
    Leads raw n ∧ Leads raw' n

variable {ms ms' : List (String × Json.Value)} {text text' : Field → String} {c c' : Credential}

theorem exists_key_iff {name : String} : name ∈ names ↔ ∃ f : Field, f.key = name := by
  have hnames : names = Field.all.map Field.key := rfl
  rw [hnames, List.mem_map]
  constructor
  · rintro ⟨f, -, hf⟩
    exact ⟨f, hf⟩
  · rintro ⟨f, hf⟩
    exact ⟨f, f.mem_all, hf⟩

theorem key_eq_integerName_iff {f : Field} : f.key = integerName ↔ f = .routing := by
  cases f <;> decide

/-- a credential that carries the texts of an object has its headers -/
theorem exported_headers (htexts : HasTexts ms text) (hcarries : Carries c text) : Exported ms c.headers := by
  constructor
  · rfl
  · intro h hmem hname
    obtain ⟨f, -, rfl⟩ := List.mem_map.1 hmem
    have hf : f ≠ .routing := fun hf => hname (key_eq_integerName_iff.2 hf)
    rw [htexts f, hcarries.header f hf]
  · intro h hmem hname
    obtain ⟨f, -, rfl⟩ := List.mem_map.1 hmem
    obtain rfl := key_eq_integerName_iff.1 hname
    exact ⟨text .routing, c.routing, htexts .routing, leads_iff.2 hcarries.routing.symm, isDecimal_iff.2 rfl⟩

/-! ## Documents with the same credential -/

/-- a credential is the only one that carries its texts -/
theorem Carries.eq (h : Carries c text) (h' : Carries c' text) : c = c' :=
  Except.ok.inj ((ofTexts_eq_ok_iff.2 h).symm.trans (ofTexts_eq_ok_iff.2 h'))

/-- **The credentials of two objects are the same exactly if the objects agree.** -/
theorem eq_iff_agree (htexts : HasTexts ms text) (hcarries : Carries c text) (htexts' : HasTexts ms' text')
    (hcarries' : Carries c' text') : c = c' ↔ Agree ms ms' := by
  constructor
  · rintro rfl
    constructor
    · intro name hmem hname
      obtain ⟨f, rfl⟩ := exists_key_iff.1 hmem
      have hf : f ≠ .routing := fun hf => hname (key_eq_integerName_iff.2 hf)
      rw [htexts f, htexts' f, ← hcarries.header f hf, ← hcarries'.header f hf]
    · exact ⟨_, _, c.routing, htexts .routing, htexts' .routing, leads_iff.2 hcarries.routing.symm,
        leads_iff.2 hcarries'.routing.symm⟩
  · intro h
    have hcarries'' : Carries c text' := by
      constructor
      · intro f hf
        have hkey := h.same f.key (exists_key_iff.2 ⟨f, rfl⟩) (fun hname => hf (key_eq_integerName_iff.1 hname))
        rw [htexts f, htexts' f] at hkey
        rw [hcarries.header f hf, Json.Value.text.inj (Option.some.inj hkey)]
      · obtain ⟨raw, raw', n, hraw, hraw', hleads, hleads'⟩ := h.integer
        obtain rfl := Json.Value.text.inj (Option.some.inj ((htexts .routing).symm.trans hraw))
        obtain rfl := Json.Value.text.inj (Option.some.inj ((htexts' .routing).symm.trans hraw'))
        rw [hcarries.routing, leads_iff.1 hleads, leads_iff.1 hleads']
    exact hcarries''.eq hcarries'

/-! ## Reading the headers again -/

/-- an object with the ten headers of a credential gives that credential -/
theorem ofDocument_of_headers (hleast : RoutingNumber.least ≤ c.routing) (hmost : c.routing ≤ RoutingNumber.greatest)
    (h : ∀ header ∈ c.headers, Keyed.get? header.1 ms = some (.text header.2)) : ofDocument (.object ms) = .ok c := by
  have htexts : HasTexts ms c.header := fun f => h (f.key, c.header f) (List.mem_map_of_mem f.mem_all)
  have hcarries : Carries c c.header := ofTexts_eq_ok_iff.1 (ofTexts_header hleast hmost)
  exact judged_iff.1 (Judged.accepted htexts hcarries)

/-- **The headers keep what the document says.** An accepted document is an object, and the ten headers are its texts under
the ten names in their order, one of them as the decimal form of the integer that its text begins with. Accepted documents
have the same credential exactly if they agree in this. Any object with the ten headers, such as the one that is printed, is
accepted and gives the credential again, hence the same headers. -/
theorem headers_keep_document {d : Json.Value} {c : Credential} (h : ofDocument d = .ok c) :
    (∃ ms, d = .object ms ∧ Exported ms c.headers ∧
      ∀ ms' c', ofDocument (.object ms') = .ok c' → (c = c' ↔ Agree ms ms')) ∧
    ofDocument c.document = .ok c ∧
    ∀ ms', (∀ header ∈ c.headers, Keyed.get? header.1 ms' = some (.text header.2)) → ofDocument (.object ms') = .ok c := by
  obtain ⟨hleast, hmost⟩ := routing_mem h
  refine ⟨?_, ofDocument_document hleast hmost, fun ms' hms' => ofDocument_of_headers hleast hmost hms'⟩
  cases judged_iff.2 h with
  | @accepted ms text _ htexts hcarries =>
    refine ⟨ms, rfl, exported_headers htexts hcarries, ?_⟩
    intro ms' c' h'
    cases judged_iff.2 h' with
    | accepted htexts' hcarries' => exact eq_iff_agree htexts hcarries htexts' hcarries'

/-- the sample document with another text for the integer -/
def respelled (raw : String) : List (String × Json.Value) :=
  Keyed.insert integerName (.text raw) (Keyed.ofList (sample.headers.map fun h => (h.1, Json.Value.text h.2)))

theorem ofDocument_respelled (raw : String) (hraw : RoutingNumber.leading raw = RoutingNumber.greatest) :
    ofDocument (.object (respelled raw)) = .ok { sample with routing := RoutingNumber.greatest } := by
  have htexts : HasTexts (respelled raw) fun f => if f = .routing then raw else sample.header f := by
    intro f
    by_cases hf : f = .routing
    · subst hf
      exact Keyed.get?_insert_self ..
    · have hname : f.key ≠ integerName := fun hname => hf (key_eq_integerName_iff.1 hname)
      simp only [if_neg hf]
      rw [respelled, Keyed.get?_insert_of_ne hname, get?_document]
  refine judged_iff.1 (Judged.accepted htexts ⟨?_, hraw.symm⟩)
  intro f hf
  rw [if_neg hf]
  cases f with
  | routing => exact absurd rfl hf
  | _ => rfl

/-- an integer above the bounds, with more behind it, and the greatest one, behind zeros -/
theorem headers_keep_document_respelled :
    Exported (respelled " +9223372036854776000 units")
        (Credential.headers { sample with routing := RoutingNumber.greatest }) ∧
      Agree (respelled " +9223372036854776000 units") (respelled "0009223372036854775807") := by
  have habove := ofDocument_respelled " +9223372036854776000 units" (by decide +kernel)
  have hzeros := ofDocument_respelled "0009223372036854775807" (by decide +kernel)
  obtain ⟨⟨ms, hms, hexported, hagree⟩, -⟩ := headers_keep_document habove
  obtain rfl := Json.Value.object.inj hms
  exact ⟨hexported, (hagree _ _ hzeros).1 rfl⟩

end Credential

end CredentialFailover
