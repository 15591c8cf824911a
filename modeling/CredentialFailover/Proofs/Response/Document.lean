/-
Which bodies carry a document, and which one.

A body may spell its document in any way: every spelling, with blanks around it, is read as the value that it spells, and
the values that have a spelling are the plain ones. A body that carries an object carries none any more once it is damaged
at its end, which means cut short or continued by more than blanks. It is refused then as a text that is no document, under
every success status, and no credential comes of it.

An object ends with a mark of its own; for a number this would fail, since `12` cut short is `1`.

Main facts: `document_of_every_spelling`, `document_of_damaged`.
-/
import CredentialFailover.Acquisition.Walk
import CredentialFailover.Proofs.Credential.Rendering
import CredentialFailover.Proofs.Json.Extension

namespace CredentialFailover.Response

open Ascii
open Json (Blanks)

/-! ## Every spelling of a document -/

/-- **A response carries the document that its body spells**, whichever spelling it is and whatever blanks are around it. -/
theorem document_of_every_spelling :
    (∀ v, Json.Plain Json.maxDepth v ↔ ∃ bs, Json.Spelling Json.maxDepth v bs) ∧
      ∀ (v : Json.Value) (before bs after : List UInt8) (status : ℕ) (contentType : Option String),
        Blanks before → Json.Spelling Json.maxDepth v bs → Blanks after → 200 ≤ status → status ≤ 299 →
          (Response.mk status contentType (before ++ bs ++ after)).document = .ok v := by
  constructor
  · intro v
    constructor
    · intro h
      exact ⟨_, Json.spelling_pretty h 0⟩
    · rintro ⟨bs, hbs⟩
      exact Json.plain_of_spelling hbs
  · intro v before bs after status contentType hbefore hbs hafter hleast hmost
    have hread := Json.document_of_spelling hbefore hbs hafter
    exact document_of_success (isSuccess_iff.2 ⟨hleast, hmost⟩) contentType hread

/-- an object that names a key twice, the second time by an escape, with the least integer under it -/
theorem spelling_of_repeated_key :
    Json.Spelling Json.maxDepth (.object [("k", .integer (-2 ^ 63))])
      (openBrace :: Utf8.bytes "\"k\" :[],\"\\u006B\":-9223372036854775808" ++ [closeBrace]) := by
  have hself : Json.CharSpelling 'k' [0x6B] := .plain (by decide) (by decide) (by decide)
  have hdigits : Json.FourDigits 'k'.toNat [0x30, 0x30, 0x36, 0x42] :=
    .digits (i := 0) (j := 0) (k := 6) (l := 11) rfl rfl rfl rfl
  have hescape : Json.CharSpelling 'k' [backslash, lowerU, 0x30, 0x30, 0x36, 0x42] := .escape hdigits
  have hplain : Json.TextSpelling "k" [quote, 0x6B, quote] := .quoted (s := "k") (.cons hself .nil)
  have hescaped : Json.TextSpelling "k" (quote :: [backslash, lowerU, 0x30, 0x30, 0x36, 0x42] ++ [quote]) :=
    .quoted (s := "k") (.cons hescape .nil)
  have hlist : Json.Spelling 126 (.list []) [openBracket, closeBracket] := Or.inr (.emptyList Json.blanks_nil)
  have hleast : Json.Spelling 126 (.integer (-2 ^ 63)) (Utf8.bytes "-9223372036854775808") :=
    Or.inl (.integer (by decide) (by decide))
  have hfirst := Json.MemberSpelling.member hplain (Json.blanks_singleton (b := space) rfl) Json.blanks_nil hlist
  have hsecond := Json.MemberSpelling.member hescaped Json.blanks_nil Json.blanks_nil hleast
  have hinside := Json.Separated.more Json.blanks_nil hfirst Json.blanks_nil
    (Json.Separated.last Json.blanks_nil hsecond Json.blanks_nil)
  exact Or.inr (Json.LevelSpelling.object hinside (Keyed.settles_ofList _))

theorem document_of_every_spelling_repeated_key :
    (Response.mk 200 none ([space] ++ (openBrace :: Utf8.bytes "\"k\" :[],\"\\u006B\":-9223372036854775808" ++
      [closeBrace]) ++ [lineFeed])).document = .ok (.object [("k", .integer (-2 ^ 63))]) :=
  document_of_every_spelling.2 _ _ _ _ 200 none (Json.blanks_singleton rfl) spelling_of_repeated_key
    (Json.blanks_singleton rfl) (by decide) (by decide)

/-! ## Damaged bodies -/

/-- the copies of a body that lack something at its end, or have something more there, and not blanks alone -/
inductive Damaged : List UInt8 → List UInt8 → Prop where
  | cut {copy missing : List UInt8} (h : ∃ b ∈ missing, Json.isSpace b = false) : Damaged (copy ++ missing) copy
  | continued {body added : List UInt8} (h : ∃ b ∈ added, Json.isSpace b = false) : Damaged body (body ++ added)

/-- a body with another document behind it is damaged -/
theorem damaged_of_joined (body : List UInt8) {other : List UInt8} {d : Json.Value} (h : Json.document other = .ok d) :
    Damaged body (body ++ other) := by
  obtain ⟨rest, hread, -⟩ := Json.document_eq_ok_iff.1 h
  refine .continued (Json.not_blanks_iff.1 ?_)
  intro hblanks
  exact Json.skip_ne_nil_of_read hread (Json.skip_eq_nil_iff.2 hblanks)

/-- no document can be read in a damaged copy of an object -/
theorem Damaged.document_ne_ok {body copy : List UInt8} (h : Damaged body copy) {ms : List (String × Json.Value)}
    (hread : Json.document body = .ok (.object ms)) (d : Json.Value) : Json.document copy ≠ .ok d := by
  intro hcopy
  cases h with
  | cut hmissing => exact Json.not_blanks_iff.2 hmissing (Json.blanks_of_prefix hcopy hread)
  | continued hadded => exact Json.not_blanks_iff.2 hadded ((Json.document_append_iff hread _ d).1 hcopy).2

/-- a credential comes of an object only -/
theorem exists_object {r : Response} {c : Credential} (h : r.credential = .ok c) :
    ∃ ms, r.document = .ok (.object ms) := by
  unfold credential at h
  split at h
  · cases h
  · rename_i d hdocument
    cases d with
    | object ms => exact ⟨ms, hdocument⟩
    | null | boolean | number | text | list => cases h

/-- **A damaged copy of an accepted object is refused** under every success status, blanks behind it change nothing, and
no damaged copy of a body with a credential gives one. -/
theorem document_of_damaged (r : Response) :
    (∀ ms, r.document = .ok (.object ms) → ∀ (status : ℕ) (contentType : Option String), 200 ≤ status → status ≤ 299 →
      (∀ copy, Damaged r.body copy → ∃ reason, (Response.mk status contentType copy).document = .error (.parse reason)) ∧
        ∀ blanks, Blanks blanks → (Response.mk status contentType (r.body ++ blanks)).document = .ok (.object ms)) ∧
      ∀ c, r.credential = .ok c → ∀ (copy : List UInt8) (status : ℕ) (contentType : Option String), Damaged r.body copy →
        ∃ fault, (Response.mk status contentType copy).credential = .error fault := by
  constructor
  · intro ms h status contentType hleast hmost
    obtain ⟨-, hread⟩ := document_eq_ok_iff.1 h
    have hstatus : isSuccess status = true := isSuccess_iff.2 ⟨hleast, hmost⟩
    constructor
    · intro copy hcopy
      exact exists_parse_fault hstatus (hcopy.document_ne_ok hread)
    · intro blanks hblanks
      have hextended := (Json.document_append_iff hread blanks _).2 ⟨rfl, hblanks⟩
      exact document_of_success hstatus contentType hextended
  · intro c h copy status contentType hcopy
    obtain ⟨ms, hdocument⟩ := exists_object h
    obtain ⟨-, hread⟩ := document_eq_ok_iff.1 hdocument
    cases hcredential : (Response.mk status contentType copy).credential with
    | error fault => exact ⟨fault, rfl⟩
    | ok c' =>
      obtain ⟨ms', hdocument'⟩ := exists_object hcredential
      exact absurd (document_eq_ok_iff.1 hdocument').2 (hcopy.document_ne_ok hread _)

/-- an empty object without its closing brace, and the printed form of a credential twice -/
theorem document_of_damaged_sample :
    (∃ reason, (Response.mk 299 none [openBrace]).document = .error (.parse reason)) ∧
      ∃ fault, (Response.mk 200 (some "text/plain")
        (Utf8.bytes Credential.sample.render ++ Utf8.bytes Credential.sample.render)).credential = .error fault := by
  constructor
  · have hspelling : Json.Spelling Json.maxDepth (.object []) [openBrace, closeBrace] := Or.inr (.emptyObject Json.blanks_nil)
    have hread := Json.document_of_spelling Json.blanks_nil hspelling Json.blanks_nil
    have hbody : (Response.mk 200 none ([openBrace] ++ [closeBrace])).document = .ok (.object []) :=
      document_of_success rfl none hread
    have hcut : Damaged ([openBrace] ++ [closeBrace]) [openBrace] := .cut ⟨closeBrace, by simp, rfl⟩
    exact ((document_of_damaged _).1 [] hbody 299 none (by decide) (by decide)).1 _ hcut
  · have hanswer := Credential.sample.document_answer (by decide : 200 ≤ 200) (by decide) none
    have hcredential : (Response.mk 200 none (Utf8.bytes Credential.sample.render)).credential =
        .ok Credential.sample := by
      rw [credential, hanswer]
      exact Credential.ofDocument_sample
    have hread := Credential.sample.document_render
    -- the octets themselves play no part, and comparing them would take long
    generalize Utf8.bytes Credential.sample.render = body at hread hcredential ⊢
    exact (document_of_damaged _).2 _ hcredential _ 200 _ (damaged_of_joined body hread)

end CredentialFailover.Response
