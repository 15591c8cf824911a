/-
What a refused answer tells of the secrets in its body.

An answer with a status that is no success is refused before its body is read as a document, and the diagnostic quotes the
first 240 characters of the body as they stand. Nothing is left out of them, so two such answers whose documents differ in
the secrets alone are told apart exactly if their bodies differ within those characters; a text that ends within them is
quoted whole. The warning and the error that are made of the diagnostic tell as much.

The bodies are compact forms of objects. None of these is the front of the other, so it does not show in the three dots
alone that they differ (`chars_eq_iff`).

Main fact: `refusal_tells`.
-/
import CredentialFailover.Proofs.Acquisition.Logging
import CredentialFailover.Proofs.Json.Compact
import CredentialFailover.Proofs.Response.Snippet

namespace CredentialFailover

open Text (Parting)

/-! ## Snippets -/

namespace Snippet

/-- texts that are the same or part are quoted alike exactly if they do not part within what is quoted -/
theorem chars_eq_iff {t u : List Char} (h : Parting t u) : chars t = chars u ↔ t.take limit = u.take limit := by
  cases h with
  | same => exact iff_of_true rfl rfl
  | @apart a b front as bs hne ha hb =>
    have hat : (front ++ a :: as)[front.length]? = some a := by simp
    have hbt : (front ++ b :: bs)[front.length]? = some b := by simp
    rcases Nat.lt_or_ge front.length limit with hlt | hge
    · refine iff_of_false ?_ ?_
      · intro heq
        have hsame := getElem?_chars hlt hat
        rw [heq, getElem?_chars hlt hbt, onOneLine_of_printing ha, onOneLine_of_printing hb] at hsame
        exact hne (Option.some.inj hsame).symm
      · intro heq
        have hsame := List.getElem?_take_of_lt (l := front ++ a :: as) hlt
        rw [heq, List.getElem?_take_of_lt hlt, hat, hbt] at hsame
        exact hne (Option.some.inj hsame).symm
    · have htake : (front ++ a :: as).take limit = (front ++ b :: bs).take limit := by
        rw [List.take_append_of_le_length hge, List.take_append_of_le_length hge]
      have hlong : limit < (front ++ a :: as).length := by
        rw [List.length_append, List.length_cons]
        omega
      have hlong' : limit < (front ++ b :: bs).length := by
        rw [List.length_append, List.length_cons]
        omega
      exact iff_of_true (by rw [chars_of_lt hlong, chars_of_lt hlong', htake]) htake

end Snippet

/-! ## Objects -/

namespace Json

/-- a value with every text in place of a text -/
def Value.veil : Value → Value
  | .text _ => .text ""
  | v => v

theorem sameButText_of_veil {m m' : String × Value} (h : (m.1, m.2.veil) = (m'.1, m'.2.veil)) : SameButText m m' := by
  obtain ⟨key, v⟩ := m
  obtain ⟨key', v'⟩ := m'
  obtain ⟨rfl, hveil⟩ := Prod.mk.inj h
  cases v with
  | text s =>
    cases v' with
    | text s' => exact SameButText.texts _ s s'
    | _ => cases hveil
  | _ =>
    cases v' with
    | text s' => cases hveil
    | _ => cases hveil <;> exact SameButText.same _

end Json

/-- objects that differ in the secrets alone have their members in pairs -/
theorem SameButSecrets.forall₂ {ms ms' : List (String × Json.Value)} (h : SameButSecrets ms ms') (hms : Keyed.Ordered ms)
    (hms' : Keyed.Ordered ms') : List.Forall₂ Json.SameButText ms ms' := by
  have hveiled : (ms.map fun m => (m.1, m.2.veil)) = ms'.map fun m => (m.1, m.2.veil) := by
    refine Keyed.Ordered.eq_of_get? (List.pairwise_map.2 hms) (List.pairwise_map.2 hms') ?_
    intro key
    rw [Keyed.get?_map, Keyed.get?_map]
    rcases h key with hsame | ⟨-, -, -, s, s', hs, hs'⟩
    · rw [hsame]
    · rw [hs, hs']
      rfl
  have hpairs := List.forall₂_eq_eq_eq (α := String × Json.Value) ▸ hveiled
  rw [List.forall₂_map_left_iff, List.forall₂_map_right_iff] at hpairs
  exact hpairs.imp fun _ _ hm => Json.sameButText_of_veil hm

theorem SameButSecrets.refl (ms : List (String × Json.Value)) : SameButSecrets ms ms := fun _ => Or.inl rfl

theorem SameButSecrets.cons {ms ms' : List (String × Json.Value)} (h : SameButSecrets ms ms') (m : String × Json.Value) :
    SameButSecrets (m :: ms) (m :: ms') := by
  intro key
  by_cases hkey : m.1 = key
  · exact Or.inl (by simp [Keyed.get?, hkey])
  · simpa only [Keyed.get?, if_neg hkey] using h key

theorem SameButSecrets.cons_secret {ms ms' : List (String × Json.Value)} (h : SameButSecrets ms ms') {f : Field}
    (hf : f.isSecret = true) (s s' : String) :
    SameButSecrets ((f.key, .text s) :: ms) ((f.key, .text s') :: ms') := by
  intro key
  by_cases hkey : f.key = key
  · exact Or.inr ⟨f, hf, hkey, s, s', by simp [Keyed.get?, hkey], by simp [Keyed.get?, hkey]⟩
  · simpa only [Keyed.get?, if_neg hkey] using h key

/-! ## Wordings -/

/-- what a refusal says is told apart by the snippet alone -/
theorem Fault.describeStatus_inj {status : ℕ} {contentType : Option String} {snippet snippet' : String} :
    describeStatus status contentType snippet = describeStatus status contentType snippet' ↔ snippet = snippet' := by
  constructor
  · intro h
    have hend := (String.append_right_inj _).1 h
    split_ifs at hend with hempty hempty' hempty'
    · rw [hempty, hempty']
    · exact absurd (congrArg String.toList hend) (by simp)
    · exact absurd (congrArg String.toList hend) (by simp)
    · exact (String.append_right_inj _).1 hend
  · rintro rfl
    rfl

/-- a refusal ends with its snippet -/
theorem Fault.suffix_describeStatus (status : ℕ) (contentType : Option String) (snippet : String) :
    snippet.toList <:+ (describeStatus status contentType snippet).toList := by
  unfold describeStatus
  split_ifs with hempty
  · rw [hempty]
    exact List.nil_suffix
  · simp only [String.toList_append, ← List.append_assoc]
    exact List.suffix_append _ _

theorem Fault.describeFailures_append (fs gs : List EndpointFailure) :
    describeFailures (fs ++ gs) = describeFailures fs ++ describeFailures gs := by
  induction fs with
  | nil => rw [List.nil_append, describeFailures, String.empty_append]
  | cons f fs ih => simp only [List.cons_append, describeFailures, ih, String.append_assoc]

/-- the wording of a whole call tells the wording of each candidate's fault -/
theorem Fault.message_allEndpointsFailed_inj {e : Endpoint} {fs gs : List EndpointFailure} {fault fault' : Fault} :
    (allEndpointsFailed (fs ++ fault.failureOf e :: gs)).message =
      (allEndpointsFailed (fs ++ fault'.failureOf e :: gs)).message ↔ fault.message = fault'.message := by
  have hmessage : ∀ failures, (allEndpointsFailed failures).message =
      "all anisette endpoints failed" ++ describeFailures failures := fun _ => rfl
  have hdescribe : ∀ fault : Fault, (fault.failureOf e).describe =
      "anisette endpoint failed [" ++ e.text ++ "]: " ++ fault.message := fun _ => rfl
  rw [hmessage, hmessage, String.append_right_inj, describeFailures_append, describeFailures_append,
    String.append_right_inj, describeFailures, describeFailures, String.append_left_inj, String.append_right_inj,
    hdescribe, hdescribe, String.append_right_inj]

/-- a warning tells the wording of its failure -/
theorem Acquisition.message_of_warning {e : Endpoint} {fault fault' : Fault} (h : warning e fault = warning e fault') :
    fault.message = fault'.message := by
  simp only [warning, Prod.mk.injEq, List.cons.injEq, Json.Value.text.injEq] at h
  exact h.2.2.2.2.2.1.2

/-! ## Refusals -/

/-- two objects have the same front in compact form, as far as bodies are quoted -/
def QuotedAlike (ms ms' : List (String × Json.Value)) : Prop :=
  (Json.Value.object ms).compactChars.take 240 = (Json.Value.object ms').compactChars.take 240

/-- how an answer that is refused is described, with the compact form of an object as its body -/
def refusal (status : ℕ) (contentType : Option String) (ms : List (String × Json.Value)) : Fault :=
  .httpStatus status (contentType.filter (· ≠ "")) (Snippet.ofBody (Utf8.bytes (Json.Value.object ms).compact))

variable (status : ℕ) (contentType : Option String) {ms ms' : List (String × Json.Value)}

theorem document_eq_refusal {status : ℕ} (hstatus : status < 200 ∨ 299 < status) :
    (Response.mk status contentType (Utf8.bytes (Json.Value.object ms).compact)).document =
      .error (refusal status contentType ms) :=
  Response.document_of_refused hstatus contentType _

theorem message_refusal : (refusal status contentType ms).message =
    Fault.describeStatus status (contentType.filter (· ≠ ""))
      (String.ofList (Snippet.chars (Json.Value.object ms).compactChars)) := by
  rw [← Snippet.ofBody_bytes]
  rfl

/-- two refusals are the same exactly if they are worded alike, which is if their objects are quoted alike -/
theorem refusal_eq_iff (h : List.Forall₂ Json.SameButText ms ms') :
    (refusal status contentType ms = refusal status contentType ms' ↔ QuotedAlike ms ms') ∧
      ((refusal status contentType ms).message = (refusal status contentType ms').message ↔ QuotedAlike ms ms') := by
  have hquoted := Snippet.chars_eq_iff (Json.parting_compactChars h)
  constructor
  · rw [refusal, refusal, Fault.httpStatus.injEq, Json.Value.compact, Json.Value.compact, Snippet.ofBody_bytes,
      Snippet.ofBody_bytes, String.ofList_inj]
    exact (and_iff_right rfl).trans ((and_iff_right rfl).trans hquoted)
  · rw [message_refusal, message_refusal, Fault.describeStatus_inj, String.ofList_inj]
    exact hquoted

/-- members behind what is quoted are not told -/
theorem quotedAlike_of_front {before after after' : List (String × Json.Value)} {m : String × Json.Value}
    (hlength : 239 ≤ (Json.compactMembers (before ++ [m])).length) :
    QuotedAlike (before ++ m :: after) (before ++ m :: after') := by
  have htake : ∀ after, (Json.Value.object (before ++ m :: after)).compactChars.take 240 =
      ('\x7b' :: Json.compactMembers (before ++ [m])).take 240 := by
    intro after
    obtain ⟨front, hfront⟩ := Json.exists_compactMembers before
    obtain ⟨hupto, behind, hwhole⟩ := hfront m after
    rw [Json.Value.compactChars, hwhole, ← hupto, ← List.cons_append, List.append_assoc,
      List.take_append_of_le_length (Nat.succ_le_succ hlength)]
  rw [QuotedAlike, htake after, htake after']

/-- the compact form of an object up to a text under a key, and how long it is -/
theorem exists_compactChars (before : List (String × Json.Value)) (key : String) :
    ∃ front, ∀ (s : String) (after : List (String × Json.Value)),
      (front ++ Json.quoted s).length = (Json.compactMembers (before ++ [(key, .text s)])).length + 1 ∧
        ∃ behind, (Json.Value.object (before ++ (key, .text s) :: after)).compactChars =
          front ++ Json.quoted s ++ behind := by
  obtain ⟨front, hfront⟩ := Json.exists_compactMembers before
  refine ⟨'\x7b' :: front ++ (Json.quoted key ++ [':']), fun s after => ?_⟩
  obtain ⟨hupto, behind, hwhole⟩ := hfront (key, .text s) after
  rw [Json.memberChars_text] at hupto hwhole
  refine ⟨?_, behind ++ ['\x7d'], ?_⟩
  · rw [hupto]
    simp only [List.length_append, List.length_cons]
    omega
  · rw [Json.Value.compactChars, hwhole]
    simp only [List.cons_append, List.append_assoc]

/-- two texts in the same place that end within what is quoted are the same if they are quoted alike -/
theorem QuotedAlike.text_eq (before : List (String × Json.Value)) {after after' : List (String × Json.Value)}
    {key s s' : String}
    (h : QuotedAlike (before ++ (key, .text s) :: after) (before ++ (key, .text s') :: after'))
    (hlength : (Json.compactMembers (before ++ [(key, .text s)])).length < 240)
    (hlength' : (Json.compactMembers (before ++ [(key, .text s')])).length < 240) : s = s' := by
  obtain ⟨front, hfront⟩ := exists_compactChars before key
  obtain ⟨hs, behind, hwhole⟩ := hfront s after
  obtain ⟨hs', behind', hwhole'⟩ := hfront s' after'
  have htake : ∀ (s : String) (behind : List Char), (front ++ Json.quoted s).length ≤ 240 →
      (front ++ Json.quoted s ++ behind).take 240 =
        front ++ (Json.quoted s ++ behind.take (240 - (front ++ Json.quoted s).length)) := by
    intro s behind hle
    rw [List.take_append, List.take_of_length_le hle, List.append_assoc]
  rw [QuotedAlike, hwhole, hwhole', htake s behind (hs ▸ hlength), htake s' behind' (hs' ▸ hlength')] at h
  exact Json.eq_of_quoted_append (List.append_cancel_left h)

/-- a text that ends within what is quoted is quoted whole -/
theorem infix_message_refusal {before after : List (String × Json.Value)} {key s : String}
    (hlength : (Json.compactMembers (before ++ [(key, .text s)])).length < 240) :
    Json.quoted s <:+: (refusal status contentType (before ++ (key, .text s) :: after)).message.toList := by
  obtain ⟨front, hfront⟩ := exists_compactChars before key
  obtain ⟨hlength', behind, hwhole⟩ := hfront s after
  have hquoted : Json.quoted s <:+: Snippet.chars (Json.Value.object (before ++ (key, .text s) :: after)).compactChars := by
    rw [hwhole]
    exact Snippet.infix_chars (hlength' ▸ hlength) fun c hc => Json.printing_of_mem_quoted hc
  have hend := Fault.suffix_describeStatus status (contentType.filter (· ≠ ""))
    (String.ofList (Snippet.chars (Json.Value.object (before ++ (key, .text s) :: after)).compactChars))
  rw [String.toList_ofList] at hend
  rw [message_refusal]
  exact hquoted.trans hend.isInfix

/-! ## Objects with all ten texts -/

/-- an object with all ten texts, three of them as given -/
def answered (password userId machineId : String) : List (String × Json.Value) :=
  [("X-Apple-I-Client-Time", .text "2024-02-29T23:59:59Z"), ("X-Apple-I-MD", .text password),
    ("X-Apple-I-MD-LU", .text userId), ("X-Apple-I-MD-M", .text machineId), ("X-Apple-I-MD-RINFO", .text "17106176"),
    ("X-Apple-I-SRL-NO", .text "0"), ("X-Apple-I-TimeZone", .text "UTC"), ("X-Apple-Locale", .text "en_US"),
    ("X-MMe-Client-Info", .text "<MacBookPro13,2>"), ("X-Mme-Device-Id", .text "d")]

theorem ordered_answered (password userId machineId : String) : Keyed.Ordered (answered password userId machineId) := by
  have hkeys : ((answered password userId machineId).map Prod.fst).Pairwise (· < ·) := by
    change List.Pairwise (· < ·) ["X-Apple-I-Client-Time", "X-Apple-I-MD", "X-Apple-I-MD-LU", "X-Apple-I-MD-M",
      "X-Apple-I-MD-RINFO", "X-Apple-I-SRL-NO", "X-Apple-I-TimeZone", "X-Apple-Locale", "X-MMe-Client-Info",
      "X-Mme-Device-Id"]
    decide
  exact List.pairwise_map.1 hkeys

theorem hasText_answered (password userId machineId : String) (f : Field) :
    Credential.HasText (answered password userId machineId) f := by
  cases f <;> exact ⟨_, rfl⟩

theorem sameButSecrets_answered (password password' userId machineId machineId' : String) :
    SameButSecrets (answered password userId machineId) (answered password' userId machineId') := by
  have hmachine := (SameButSecrets.refl (List.drop 4 (answered password userId machineId))).cons_secret
    (f := .machineId) rfl machineId machineId'
  have hpassword := (hmachine.cons (Field.localUserId.key, .text userId)).cons_secret
    (f := .oneTimePassword) rfl password password'
  exact hpassword.cons (Field.clientTime.key, .text "2024-02-29T23:59:59Z")

/-! ## What refusals tell -/

/-- **What a refusal tells of the secrets.** Two answers that are refused, with objects that differ in the secrets alone, are
described alike exactly if the objects agree in the first 240 characters of their compact forms, and so are the warning and
the error that are made of the description. Members behind these characters are not told; a text that ends within them is
quoted whole. -/
theorem refusal_tells {status : ℕ} (hstatus : status < 200 ∨ 299 < status) (contentType : Option String)
    (hms : Keyed.Ordered ms) (hms' : Keyed.Ordered ms') (h : SameButSecrets ms ms') :
    ∃ fault fault',
      (Response.mk status contentType (Utf8.bytes (Json.Value.object ms).compact)).document = .error fault ∧
      (Response.mk status contentType (Utf8.bytes (Json.Value.object ms').compact)).document = .error fault' ∧
      (fault.message = fault'.message ↔ QuotedAlike ms ms') ∧
      (∀ e, Acquisition.warning e fault = Acquisition.warning e fault' ↔ QuotedAlike ms ms') ∧
      (∀ e fs gs, (Fault.allEndpointsFailed (fs ++ fault.failureOf e :: gs)).message =
        (Fault.allEndpointsFailed (fs ++ fault'.failureOf e :: gs)).message ↔ QuotedAlike ms ms') ∧
      (∀ before m after after', ms = before ++ m :: after → ms' = before ++ m :: after' →
        239 ≤ (Json.compactMembers (before ++ [m])).length → fault.message = fault'.message) ∧
      ∀ before key s after, ms = before ++ (key, .text s) :: after →
        (Json.compactMembers (before ++ [(key, .text s)])).length < 240 → Json.quoted s <:+: fault.message.toList := by
  obtain ⟨hsame, hmessage⟩ := refusal_eq_iff status contentType (h.forall₂ hms hms')
  refine ⟨refusal status contentType ms, refusal status contentType ms', document_eq_refusal contentType hstatus,
    document_eq_refusal contentType hstatus, hmessage, ?_, ?_, ?_, ?_⟩
  · intro e
    constructor
    · intro hwarning
      exact hmessage.1 (Acquisition.message_of_warning hwarning)
    · intro hquoted
      exact congrArg (Acquisition.warning e) (hsame.2 hquoted)
  · intro e fs gs
    exact Fault.message_allEndpointsFailed_inj.trans hmessage
  · rintro before m after after' rfl rfl hlength
    exact hmessage.2 (quotedAlike_of_front hlength)
  · rintro before key s after rfl hlength
    exact infix_message_refusal status contentType hlength

/-- the passwords of two refused answers tell them apart, though nothing else differs -/
theorem refusals_differ_in_password :
    (∀ f, Credential.HasText (answered "tango-41" "u" "m") f) ∧
      (∀ f, Credential.HasText (answered "tango-42" "u" "m") f) ∧
      SameButSecrets (answered "tango-41" "u" "m") (answered "tango-42" "u" "m") ∧
      ∃ fault fault',
        (Response.mk 503 (some "application/json")
          (Utf8.bytes (Json.Value.object (answered "tango-41" "u" "m")).compact)).document = .error fault ∧
        (Response.mk 503 (some "application/json")
          (Utf8.bytes (Json.Value.object (answered "tango-42" "u" "m")).compact)).document = .error fault' ∧
        fault.message ≠ fault'.message := by
  have hsame := sameButSecrets_answered "tango-41" "tango-42" "u" "m" "m"
  refine ⟨hasText_answered _ _ _, hasText_answered _ _ _, hsame, _, _, document_eq_refusal _ (Or.inr (by decide)),
    document_eq_refusal _ (Or.inr (by decide)), ?_⟩
  intro hmessage
  have hquoted := (refusal_eq_iff 503 (some "application/json")
    (hsame.forall₂ (ordered_answered _ _ _) (ordered_answered _ _ _))).2.1 hmessage
  have hpassword : "tango-41" = "tango-42" :=
    QuotedAlike.text_eq [("X-Apple-I-Client-Time", .text "2024-02-29T23:59:59Z")] hquoted (by decide +kernel)
      (by decide +kernel)
  exact absurd hpassword (by decide)

/-- machine ids behind a long user id are not told, and the password in front of it is -/
theorem refusal_tells_long_user_id :
    ∃ fault fault',
      (Response.mk 199 none (Utf8.bytes (Json.Value.object
        (answered "tango-41" (String.ofList (List.replicate 240 'l')) "m")).compact)).document = .error fault ∧
      (Response.mk 199 none (Utf8.bytes (Json.Value.object
        (answered "tango-41" (String.ofList (List.replicate 240 'l')) "n")).compact)).document = .error fault' ∧
      fault.message = fault'.message ∧ Json.quoted "tango-41" <:+: fault.message.toList := by
  generalize hlong : String.ofList (List.replicate 240 'l') = long
  have hplain : ∀ n, ((List.replicate n 'l').flatMap Json.escaped).length = n := by
    intro n
    induction n with
    | zero => rfl
    | succ n ih =>
      rw [List.replicate_succ, List.flatMap_cons, List.length_append, ih]
      exact Nat.add_comm 1 n
  have hlength : 239 ≤ (Json.quoted long).length := by
    rw [← hlong, Json.quoted, String.toList_ofList, List.length_append, List.length_cons, hplain]
    decide
  obtain ⟨fault, fault', hdocument, hdocument', -, -, -, hbehind, hwithin⟩ :=
    refusal_tells (Or.inl (by decide : 199 < 200)) none (ordered_answered "tango-41" long "m")
      (ordered_answered "tango-41" long "n") (sameButSecrets_answered "tango-41" "tango-41" long "m" "n")
  refine ⟨fault, fault', hdocument, hdocument', hbehind (List.take 2 (answered "tango-41" long "m"))
    ("X-Apple-I-MD-LU", .text long) _ _ rfl rfl ?_, ?_⟩
  · obtain ⟨front, hfront⟩ := Json.exists_compactMembers (List.take 2 (answered "tango-41" long "m"))
    rw [(hfront ("X-Apple-I-MD-LU", .text long) []).1, Json.memberChars_text, ← List.append_assoc, List.length_append]
    exact hlength.trans (Nat.le_add_left _ _)
  · refine hwithin [("X-Apple-I-Client-Time", .text "2024-02-29T23:59:59Z")] "X-Apple-I-MD" "tango-41" _ rfl ?_
    decide +kernel

end CredentialFailover
