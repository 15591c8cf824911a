/-
Which documents give a credential, and which fault refuses the others.

A document gives a credential just if it is an object with a text under each of the ten keys and the text of the client time
names a second. Of several things that are wrong the first one in this order is the fault: the document is no object; a
field has no text, the first such field in the order of the fields counting; the client time names no second. What is under
other keys does not matter, and any text is a routing number.

Main facts: `judged_iff` (what each document comes to), `exists_ofDocument_iff` (which give a credential), and
`ofDocument_judges`, the whole.
-/
import CredentialFailover.Credential.Export
import CredentialFailover.Proofs.Credential.Fields
import CredentialFailover.Proofs.Credential.Routing
import CredentialFailover.Proofs.Credential.Timestamp

namespace CredentialFailover.Credential

variable {ms : List (String × Json.Value)} {text : Field → String}

/-- an object has a text under the key of a field -/
def HasText (ms : List (String × Json.Value)) (f : Field) : Prop := ∃ s, Keyed.get? f.key ms = some (.text s)

/-- an object has these texts under the ten keys -/
def HasTexts (ms : List (String × Json.Value)) (text : Field → String) : Prop :=
  ∀ f : Field, Keyed.get? f.key ms = some (.text (text f))

/-- a text names a second that a client time can be -/
def NamesSecond (raw : String) : Prop := ∃ date hour minute second, ClientTime.Writes raw date hour minute second

/-- what is wrong with a field that has no text: there is nothing under its key, or something of another kind -/
inductive Wrong (f : Field) : Option Json.Value → Fault → Prop where
  | missing : Wrong f none (.missingField f.key)
  | otherKind {v : Json.Value} (hkind : v.kind ≠ .text) :
    Wrong f (some v) (.invalidField f.key ("expected string, got " ++ v.kind.name))

/-- a credential has these texts as its headers, but for the routing number, which is the one at the front of its text -/
structure Carries (c : Credential) (text : Field → String) : Prop where
  header : ∀ f : Field, f ≠ .routing → c.header f = text f
  routing : c.routing = RoutingNumber.leading (text .routing)

/-- what a document comes to -/
inductive Judged : Json.Value → Except Fault Credential → Prop where
  | noObject {d : Json.Value} (hkind : d.kind ≠ .object) :
    Judged d (.error (.parse ("anisette response is not a JSON object: " ++ d.kind.name)))
  | wrongField {ms : List (String × Json.Value)} {f : Field} {fault : Fault}
    (hfirst : f.IsFirst fun g => ¬ HasText ms g) (hwrong : Wrong f (Keyed.get? f.key ms) fault) :
    Judged (.object ms) (.error fault)
  | malformedTime {ms : List (String × Json.Value)} {text : Field → String} (htexts : HasTexts ms text)
    (htime : ¬ NamesSecond (text .clientTime)) : Judged (.object ms) (.error (.malformedTimestamp (text .clientTime)))
  | accepted {ms : List (String × Json.Value)} {text : Field → String} {c : Credential} (htexts : HasTexts ms text)
    (hcarries : Carries c text) : Judged (.object ms) (.ok c)

/-! ## Single fields -/

theorem fieldFault?_eq_some_iff {f : Field} {v : Option Json.Value} {fault : Fault} :
    fieldFault? f v = some fault ↔ Wrong f v fault := by
  constructor
  · intro h
    cases v with
    | none =>
      obtain rfl := Option.some.inj h
      exact Wrong.missing
    | some v =>
      cases v with
      | text s => cases h
      | _ =>
        obtain rfl := Option.some.inj h
        exact Wrong.otherKind (by simp [Json.Value.kind])
  · intro h
    cases h with
    | missing => rfl
    | @otherKind v hkind =>
      cases v with
      | text s => exact absurd rfl hkind
      | _ => rfl

theorem fieldFault?_ne_none_iff {f : Field} : fieldFault? f (Keyed.get? f.key ms) ≠ none ↔ ¬ HasText ms f := by
  refine not_congr ?_
  unfold HasText
  cases Keyed.get? f.key ms with
  | none => simp [fieldFault?]
  | some v => cases v <;> simp [fieldFault?]

/-- the fault is that of the first field without a text -/
theorem firstFault?_eq_some_iff {fault : Fault} :
    firstFault? ms = some fault ↔
      ∃ f : Field, f.IsFirst (fun g => ¬ HasText ms g) ∧ Wrong f (Keyed.get? f.key ms) fault := by
  simp only [firstFault?, Field.findSome?_all_eq_some_iff, fieldFault?_ne_none_iff, fieldFault?_eq_some_iff]

/-- without a fault the ten texts are there -/
theorem firstFault?_eq_none_iff : firstFault? ms = none ↔ HasTexts ms (textOf ms) := by
  rw [firstFault?, List.findSome?_eq_none_iff]
  constructor
  · intro h f
    obtain ⟨s, hs⟩ := not_not.1 (mt fieldFault?_ne_none_iff.2 (not_not.2 (h f f.mem_all)))
    rw [textOf, hs]
  · intro h f _
    rw [h f]
    rfl

theorem HasTexts.textOf_eq (h : HasTexts ms text) : textOf ms = text := by
  funext f
  rw [textOf, h f]

theorem HasTexts.firstFault?_eq (h : HasTexts ms text) : firstFault? ms = none :=
  firstFault?_eq_none_iff.2 (h.textOf_eq ▸ h)

/-! ## Ten texts -/

theorem namesSecond_iff {raw : String} : NamesSecond raw ↔ ∃ t, ClientTime.parse? raw = some t := by
  simp only [NamesSecond, ClientTime.writes_iff]
  constructor
  · rintro ⟨_, _, _, _, t, ht, -⟩
    exact ⟨t, ht⟩
  · rintro ⟨t, ht⟩
    exact ⟨_, _, _, _, t, ht, rfl, rfl, rfl, rfl⟩

/-- ten texts give the credential that carries them -/
theorem ofTexts_eq_ok_iff {c : Credential} : ofTexts text = .ok c ↔ Carries c text := by
  constructor
  · intro h
    unfold ofTexts at h
    split at h
    · cases h
    · rename_i t ht
      obtain rfl := Except.ok.inj h
      refine ⟨?_, rfl⟩
      intro f hf
      cases f with
      | routing => exact absurd rfl hf
      | clientTime => exact ClientTime.parse?_eq_some_iff.1 ht
      | _ => rfl
  · intro h
    have htime : ClientTime.parse? (text .clientTime) = some c.clientTime :=
      ClientTime.parse?_eq_some_iff.2 (h.header .clientTime (by decide))
    rw [ofTexts, htime, ← h.routing, ← h.header .machineId (by decide), ← h.header .oneTimePassword (by decide),
      ← h.header .localUserId (by decide), ← h.header .deviceId (by decide), ← h.header .serialNumber (by decide),
      ← h.header .clientInfo (by decide), ← h.header .locale (by decide), ← h.header .timeZone (by decide)]
    rfl

/-- ten texts are refused for the client time alone -/
theorem ofTexts_eq_error_iff {fault : Fault} :
    ofTexts text = .error fault ↔ ¬ NamesSecond (text .clientTime) ∧ fault = .malformedTimestamp (text .clientTime) := by
  rw [namesSecond_iff, ofTexts]
  cases ClientTime.parse? (text .clientTime) with
  | none => simp [eq_comm]
  | some t => simp

theorem exists_ofTexts_iff : (∃ c, ofTexts text = .ok c) ↔ NamesSecond (text .clientTime) := by
  rw [namesSecond_iff, ofTexts]
  cases ClientTime.parse? (text .clientTime) <;> simp

/-! ## Whole documents -/

theorem ofDocument_of_noObject {d : Json.Value} (h : d.kind ≠ .object) :
    ofDocument d = .error (.parse ("anisette response is not a JSON object: " ++ d.kind.name)) := by
  cases d with
  | object ms => exact absurd rfl h
  | _ => rfl

theorem judged_ofMembers (ms : List (String × Json.Value)) : Judged (.object ms) (ofMembers ms) := by
  unfold ofMembers
  cases hfault : firstFault? ms with
  | some fault =>
    obtain ⟨f, hfirst, hwrong⟩ := firstFault?_eq_some_iff.1 hfault
    exact Judged.wrongField hfirst hwrong
  | none =>
    have htexts : HasTexts ms (textOf ms) := firstFault?_eq_none_iff.1 hfault
    cases hread : ofTexts (textOf ms) with
    | ok c => exact Judged.accepted htexts (ofTexts_eq_ok_iff.1 hread)
    | error fault =>
      obtain ⟨htime, rfl⟩ := ofTexts_eq_error_iff.1 hread
      exact Judged.malformedTime htexts htime

/-- **A document comes to what it is judged to be**, and to nothing else. -/
theorem judged_iff {d : Json.Value} {r : Except Fault Credential} : Judged d r ↔ ofDocument d = r := by
  constructor
  · intro h
    cases h with
    | noObject hkind => exact ofDocument_of_noObject hkind
    | wrongField hfirst hwrong =>
      rw [ofDocument_object, ofMembers, firstFault?_eq_some_iff.2 ⟨_, hfirst, hwrong⟩]
    | malformedTime htexts htime =>
      rw [ofDocument_object, ofMembers, htexts.firstFault?_eq, htexts.textOf_eq]
      exact ofTexts_eq_error_iff.2 ⟨htime, rfl⟩
    | accepted htexts hcarries =>
      rw [ofDocument_object, ofMembers, htexts.firstFault?_eq, htexts.textOf_eq]
      exact ofTexts_eq_ok_iff.2 hcarries
  · rintro rfl
    by_cases hkind : d.kind = .object
    · cases d with
      | object ms => exact judged_ofMembers ms
      | _ => cases hkind
    · rw [ofDocument_of_noObject hkind]
      exact Judged.noObject hkind

/-- the documents that give a credential -/
theorem exists_ofDocument_iff {d : Json.Value} :
    (∃ c, ofDocument d = .ok c) ↔ ∃ ms text, d = .object ms ∧ HasTexts ms text ∧ NamesSecond (text .clientTime) := by
  constructor
  · rintro ⟨c, hc⟩
    cases judged_iff.2 hc with
    | accepted htexts hcarries =>
      exact ⟨_, _, rfl, htexts, exists_ofTexts_iff.1 ⟨c, ofTexts_eq_ok_iff.2 hcarries⟩⟩
  · rintro ⟨ms, text, rfl, htexts, htime⟩
    obtain ⟨c, hc⟩ := exists_ofTexts_iff.2 htime
    exact ⟨c, judged_iff.1 (Judged.accepted htexts (ofTexts_eq_ok_iff.1 hc))⟩

/-- **All fields or none, and the first fault decides.** What a document comes to is what it is judged to be. It gives a
credential just if it is an object with the ten texts of which that of the client time names a second, whatever the others
are. Objects that agree under the ten keys come to the same, whatever else they hold. -/
theorem ofDocument_judges :
    (∀ d r, Judged d r ↔ ofDocument d = r) ∧
    (∀ d, (∃ c, ofDocument d = .ok c) ↔
      ∃ ms text, d = .object ms ∧ HasTexts ms text ∧ NamesSecond (text .clientTime)) ∧
    (∀ ms ms', (∀ f : Field, Keyed.get? f.key ms = Keyed.get? f.key ms') →
      ofDocument (.object ms) = ofDocument (.object ms')) :=
  ⟨fun _ _ => judged_iff, fun _ => exists_ofDocument_iff, fun _ _ => ofDocument_congr⟩

/-- an object with a number as routing number, without a locale, and with a client time that names nothing -/
def damaged : List (String × Json.Value) :=
  [("X-Apple-I-Client-Time", .text "soon"), ("X-Apple-I-MD", .text "o"), ("X-Apple-I-MD-LU", .text "l"),
    ("X-Apple-I-MD-M", .text "m"), ("X-Apple-I-MD-RINFO", .integer 7), ("X-Mme-Device-Id", .list [])]

theorem ofDocument_judges_damaged :
    ofDocument (.object damaged) = .error (.invalidField "X-Apple-I-MD-RINFO" "expected string, got number") ∧
      ofDocument (.object (("Locale", .text "en_US") :: damaged)) = ofDocument (.object damaged) := by
  obtain ⟨hjudged, -, hcongr⟩ := ofDocument_judges
  refine ⟨(hjudged _ _).1 (Judged.wrongField (f := .routing) ⟨?_, ?_⟩ ?_), hcongr _ _ ?_⟩
  · exact fieldFault?_ne_none_iff.1 (by decide)
  · intro g hg
    rw [← fieldFault?_ne_none_iff]
    revert g
    decide
  · exact Wrong.otherKind (by decide)
  · intro f
    cases f <;> rfl

end CredentialFailover.Credential
