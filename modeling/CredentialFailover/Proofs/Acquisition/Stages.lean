/-
The label of an attempt names the stage that failed.

An attempt passes three stages. The request may fail; the answer may have a status that is no success, and then neither its
content type nor its body matters; the body of a success may be no document, or no object, or lack the text of a field, or
have a client time that names no second. What passes all of them is a credential. So the four labels part the outcomes of
requests, and what is counted and reported has no other label.

This is asked of transports that keep to their own stage when they fail (`Transport.Honest`), as the client of this program
does (`Http.Client.honest_get`).

Main facts: `labelled_iff` (the label of an attempt), `ticks_walk` (what a call counts), `outcome_names_stage`.
-/
import CredentialFailover.Http.Client
import CredentialFailover.Http.Playback
import CredentialFailover.Proofs.Acquisition.Conservation
import CredentialFailover.Proofs.Acquisition.Failover
import CredentialFailover.Proofs.Credential.Acceptance

namespace CredentialFailover

open Credential (HasText HasTexts NamesSecond)

/-- a transport that fails has a fault of its own stage -/
def Transport.Honest {σ : Type} (transport : Transport σ) : Prop :=
  ∀ e s fault, (transport e s).result = .error fault → ∃ reason, fault = .transport reason

/-- a body in which there is no credential, and what it lacks -/
inductive Unusable (body : List UInt8) : Prop where
  | noDocument (hread : ∀ d, Json.document body ≠ .ok d)
  | noObject {d : Json.Value} (hread : Json.document body = .ok d) (hkind : d.kind ≠ .object)
  | noText {ms : List (String × Json.Value)} {f : Field} (hread : Json.document body = .ok (.object ms))
    (hf : ¬ HasText ms f)
  | noSecond {ms : List (String × Json.Value)} {s : String} (hread : Json.document body = .ok (.object ms))
    (hs : Keyed.get? Field.clientTime.key ms = some (.text s)) (htime : ¬ NamesSecond s)

/-- the label that an outcome of a request deserves -/
inductive Labelled : Except Fault Response → String → Prop where
  | transport (fault : Fault) : Labelled (.error fault) "transport"
  | httpStatus {r : Response} (hstatus : r.status < 200 ∨ 299 < r.status) : Labelled (.ok r) "http_status"
  | parse {r : Response} (hleast : 200 ≤ r.status) (hmost : r.status ≤ 299) (hbody : Unusable r.body) :
    Labelled (.ok r) "parse"
  | success {r : Response} (hleast : 200 ≤ r.status) (hmost : r.status ≤ 299) (hbody : ¬ Unusable r.body) :
    Labelled (.ok r) "success"

/-- the labels under which attempts are counted -/
def Acquisition.labels : List String := ["success", "transport", "http_status", "parse"]

theorem Labelled.mem_labels {result : Except Fault Response} {label : String} (h : Labelled result label) :
    label ∈ Acquisition.labels := by
  cases h <;> decide

/-! ## Documents and responses -/

namespace Credential

theorem Wrong.kind {f : Field} {v : Option Json.Value} {fault : Fault} (h : Wrong f v fault) : fault.kind = .parse := by
  cases h <;> rfl

/-- a fault of a document belongs to its reading -/
theorem kind_of_ofDocument {d : Json.Value} {fault : Fault} (h : ofDocument d = .error fault) : fault.kind = .parse := by
  cases judged_iff.2 h with
  | noObject => rfl
  | wrongField _ hwrong => exact hwrong.kind
  | malformedTime => rfl

end Credential

/-- no credential comes of the document in an unusable body -/
theorem Unusable.ofDocument_ne_ok {body : List UInt8} (h : Unusable body) {d : Json.Value}
    (hread : Json.document body = .ok d) (c : Credential) : Credential.ofDocument d ≠ .ok c := by
  intro hc
  obtain ⟨ms, text, rfl, htexts, htime⟩ := Credential.exists_ofDocument_iff.1 ⟨c, hc⟩
  have hone : ∀ d, Json.document body = .ok d → d = .object ms := fun d hd => Except.ok.inj (hd.symm.trans hread)
  cases h with
  | noDocument hnone => exact hnone _ hread
  | noObject hread' hkind =>
    obtain rfl := hone _ hread'
    exact hkind rfl
  | noText hread' hf =>
    obtain rfl := Json.Value.object.inj (hone _ hread')
    exact hf ⟨_, htexts _⟩
  | noSecond hread' hs hsecond =>
    obtain rfl := Json.Value.object.inj (hone _ hread')
    rw [htexts] at hs
    obtain rfl := Json.Value.text.inj (Option.some.inj hs)
    exact hsecond htime

/-- a credential comes of the document in a body that lacks nothing -/
theorem exists_credential_of_not_unusable {body : List UInt8} (h : ¬ Unusable body) :
    ∃ d c, Json.document body = .ok d ∧ Credential.ofDocument d = .ok c := by
  have hread : ∃ d, Json.document body = .ok d := by
    by_contra hnone
    exact h (Unusable.noDocument fun d hd => hnone ⟨d, hd⟩)
  obtain ⟨d, hread⟩ := hread
  have hobject : d.kind = .object := by
    by_contra hkind
    exact h (Unusable.noObject hread hkind)
  cases d with
  | object ms =>
    have htexts : HasTexts ms (Credential.textOf ms) := by
      intro f
      by_contra hf
      refine h (Unusable.noText (f := f) hread ?_)
      rintro ⟨s, hs⟩
      rw [Credential.textOf, hs] at hf
      exact hf rfl
    have htime : NamesSecond (Credential.textOf ms .clientTime) := by
      by_contra hnone
      exact h (Unusable.noSecond hread (htexts _) hnone)
    obtain ⟨c, hc⟩ := Credential.exists_ofDocument_iff.2 ⟨ms, _, rfl, htexts, htime⟩
    exact ⟨_, c, hread, hc⟩
  | null | boolean | number | text | list => cases hobject

namespace Response

variable {r : Response}

theorem exists_status_fault (h : r.status < 200 ∨ 299 < r.status) :
    ∃ fault, r.credential = .error fault ∧ fault.kind = .httpStatus :=
  ⟨_, by rw [credential, document_of_refused h r.contentType r.body], rfl⟩

/-- of a success there is a credential exactly if its body lacks nothing -/
theorem exists_credential_iff (hleast : 200 ≤ r.status) (hmost : r.status ≤ 299) :
    (∃ c, r.credential = .ok c) ↔ ¬ Unusable r.body := by
  constructor
  · rintro ⟨c, hc⟩ hbody
    unfold credential at hc
    split at hc
    · cases hc
    · rename_i d hdocument
      exact hbody.ofDocument_ne_ok (document_eq_ok_iff.1 hdocument).2 c hc
  · intro hbody
    obtain ⟨d, c, hread, hc⟩ := exists_credential_of_not_unusable hbody
    refine ⟨c, ?_⟩
    rw [credential, document_eq_ok_iff.2 ⟨isSuccess_iff.2 ⟨hleast, hmost⟩, hread⟩]
    exact hc

/-- the fault of a success belongs to its reading -/
theorem kind_of_credential (hleast : 200 ≤ r.status) (hmost : r.status ≤ 299) {fault : Fault}
    (h : r.credential = .error fault) : fault.kind = .parse := by
  have hstatus : isSuccess r.status = true := isSuccess_iff.2 ⟨hleast, hmost⟩
  unfold credential at h
  split at h
  · rename_i fault' hdocument
    obtain rfl := Except.error.inj h
    have hnone : ∀ d, Json.document r.body ≠ .ok d := by
      intro d hd
      rw [document_eq_ok_iff.2 ⟨hstatus, hd⟩] at hdocument
      cases hdocument
    obtain ⟨reason, hreason⟩ := exists_parse_fault hstatus hnone
    rw [hdocument] at hreason
    obtain rfl := Except.error.inj hreason
    rfl
  · exact Credential.kind_of_ofDocument h

end Response

namespace Acquisition

variable {σ : Type}

/-! ## Attempts -/

/-- the label under which an attempt is counted -/
def labelOf : Except Fault Credential → String
  | .ok _ => "success"
  | .error fault => fault.kind.label

theorem labelOf_eq_success_iff {a : Except Fault Credential} : labelOf a = "success" ↔ ∃ c, a = .ok c := by
  cases a with
  | ok c => simp [labelOf]
  | error fault => simp [labelOf, fault.kind.label_ne_success]

/-- the faults of an answer that cannot be read have the label of their own, and no other fault has it -/
theorem labelOf_eq_parse_iff {a : Except Fault Credential} :
    labelOf a = "parse" ↔ ∃ fault, a = .error fault ∧ fault.isParseFault = true := by
  cases a with
  | ok c => simp [labelOf]
  | error fault =>
    simp only [labelOf, Except.error.injEq, exists_eq_left', Fault.isParseFault, beq_iff_eq]
    cases fault.kind <;> decide

/-- every outcome of a request deserves a label -/
theorem exists_labelled (result : Except Fault Response) : ∃ label, Labelled result label := by
  cases result with
  | error fault => exact ⟨_, Labelled.transport fault⟩
  | ok r =>
    by_cases hstatus : r.status < 200 ∨ 299 < r.status
    · exact ⟨_, Labelled.httpStatus hstatus⟩
    · have hleast : 200 ≤ r.status := by omega
      have hmost : r.status ≤ 299 := by omega
      by_cases hbody : Unusable r.body
      · exact ⟨_, Labelled.parse hleast hmost hbody⟩
      · exact ⟨_, Labelled.success hleast hmost hbody⟩

/-- an attempt is counted under the label that the outcome of its request deserves -/
theorem labelOf_of_labelled {reply : Reply σ} {label : String}
    (honest : ∀ fault, reply.result = .error fault → ∃ reason, fault = .transport reason)
    (h : Labelled reply.result label) : labelOf reply.credential = label := by
  obtain ⟨result, log, after⟩ := reply
  cases h with
  | transport fault =>
    obtain ⟨reason, rfl⟩ := honest fault rfl
    rfl
  | @httpStatus r hstatus =>
    obtain ⟨fault, hfault, hkind⟩ := Response.exists_status_fault hstatus
    change labelOf r.credential = "http_status"
    rw [hfault, labelOf, hkind]
    rfl
  | @parse r hleast hmost hbody =>
    cases hcredential : r.credential with
    | ok c => exact absurd hbody ((Response.exists_credential_iff hleast hmost).1 ⟨c, hcredential⟩)
    | error fault =>
      change labelOf r.credential = "parse"
      rw [hcredential, labelOf, Response.kind_of_credential hleast hmost hcredential]
      rfl
  | @success r hleast hmost hbody =>
    obtain ⟨c, hc⟩ := (Response.exists_credential_iff hleast hmost).2 hbody
    change labelOf r.credential = "success"
    rw [hc]
    rfl

/-- **The label of an attempt is the one that the outcome of its request deserves**, and no other. -/
theorem labelled_iff {transport : Transport σ} (honest : transport.Honest) (e : Endpoint) (s : σ) (label : String) :
    Labelled (transport e s).result label ↔ labelOf (transport e s).credential = label := by
  constructor
  · exact labelOf_of_labelled (honest e s)
  · rintro rfl
    obtain ⟨label, hlabel⟩ := exists_labelled (transport e s).result
    rwa [labelOf_of_labelled (honest e s) hlabel]

theorem labelOf_mem_labels {transport : Transport σ} (honest : transport.Honest) {es : List Endpoint} {s : σ}
    {a : Except Fault Credential} (h : a ∈ attempts transport es s) : labelOf a ∈ labels := by
  induction es generalizing s with
  | nil => cases h
  | cons e es ih =>
    rcases List.mem_cons.1 h with rfl | h
    · exact ((labelled_iff honest e s _).2 rfl).mem_labels
    · exact ih h

/-! ## Calls -/

theorem ticksOf_eq {es : List Endpoint} {as : List (Except Fault Credential)} (hlength : as.length = es.length) :
    ticksOf es as = ((as.take ((passed es as).length + 1)).map fun a => Tick.attempt (labelOf a)) ++
      if (first? as).isSome then [] else [.failure] := by
  induction as generalizing es with
  | nil =>
    obtain rfl := List.length_eq_zero_iff.1 hlength.symm
    rfl
  | cons a as ih =>
    cases es with
    | nil => cases hlength
    | cons e es =>
      cases a with
      | ok c => rfl
      | error fault => exact congrArg (Tick.attempt fault.kind.label :: ·) (ih (Nat.succ.inj hlength))

/-- **A call counts each attempt it makes under its label**, and itself if every candidate failed. -/
theorem ticks_walk (transport : Transport σ) (es : List Endpoint) (s : σ) :
    (walk transport es s).ticks =
      (((attempts transport es s).take (walk transport es s).asked.length).map fun a => Tick.attempt (labelOf a)) ++
        if isExhausted (walk transport es s).result then [.failure] else [] := by
  cases es with
  | nil => rfl
  | cons e es =>
    have hlength := length_attempts transport (e :: es) s
    obtain ⟨hresult, hasked, hticks, -⟩ := walkFrom_spec transport [] (e :: es) s
    have hwalk : walk transport (e :: es) s = walkFrom transport [] (e :: es) s := rfl
    rw [hwalk, hresult, hasked, hticks, ticksOf_eq hlength, List.length_take, ← hlength, ← List.take_eq_take_min]
    congr 1
    rw [resultOf]
    cases first? (attempts transport (e :: es) s) <;> rfl

/-- a call counts under the four labels only -/
theorem mem_labels_of_tick {transport : Transport σ} (honest : transport.Honest) {es : List Endpoint} {s : σ}
    {label : String} (h : Tick.attempt label ∈ (walk transport es s).ticks) : label ∈ labels := by
  rw [ticks_walk] at h
  rcases List.mem_append.1 h with h | h
  · obtain ⟨a, ha, hlabel⟩ := List.mem_map.1 h
    obtain rfl := Tick.attempt.inj hlabel
    exact labelOf_mem_labels honest (List.mem_of_mem_take ha)
  · split at h
    · cases List.mem_singleton.1 h
    · cases h

/-- the candidates that a call reports failed in one of three stages -/
theorem kind_of_mem_failures {transport : Transport σ} (honest : transport.Honest) {es : List Endpoint} {s : σ}
    {failures : List EndpointFailure} (h : (walk transport es s).result = .error (.allEndpointsFailed failures))
    {failure : EndpointFailure} (hmem : failure ∈ failures) :
    failure.kind = .transport ∨ failure.kind = .httpStatus ∨ failure.kind = .parse := by
  have hne : es ≠ [] := by
    rintro rfl
    cases h
  rw [walk_of_ne_nil transport hne, (walkFrom_spec transport [] es s).1, resultOf] at h
  split at h
  · cases h
  obtain rfl := Fault.allEndpointsFailed.inj (Except.error.inj h)
  obtain ⟨e, fault, rfl, hfault⟩ := exists_of_mem_passed hmem
  have hlabel := labelOf_mem_labels honest hfault
  change fault.kind.label ∈ labels at hlabel
  change fault.kind = .transport ∨ fault.kind = .httpStatus ∨ fault.kind = .parse
  cases hkind : fault.kind with
  | transport => exact Or.inl rfl
  | httpStatus => exact Or.inr (Or.inl rfl)
  | parse => exact Or.inr (Or.inr rfl)
  | allEndpointsFailed | noEndpointsConfigured =>
    rw [hkind] at hlabel
    exact absurd hlabel (by decide)

end Acquisition

/-! ## Sessions -/

/-- what is counted comes under labels that were there before, or under those of the ticks -/
theorem Tally.mem_attempts_countAll {t : Tally} {ticks : List Tick} {a : String × ℕ} (h : a ∈ (t.countAll ticks).attempts) :
    a ∈ t.attempts ∨ Tick.attempt a.1 ∈ ticks := by
  induction ticks generalizing t with
  | nil => exact Or.inl h
  | cons tick ticks ih =>
    rcases ih h with h | h
    · cases tick with
      | failure => exact Or.inl h
      | attempt label =>
        rcases Keyed.mem_insert h with rfl | h
        · exact Or.inr (List.mem_cons_self ..)
        · exact Or.inl h
    · exact Or.inr (List.mem_cons_of_mem _ h)

namespace Session

variable {σ : Type}

/-- a session has counted under the four labels, and its calls have reported candidates that failed in the three stages -/
structure Named (tally : Tally) (session : Session σ) : Prop where
  labels : ∀ a ∈ session.tally.attempts, a ∈ tally.attempts ∨ a.1 ∈ Acquisition.labels
  kinds : ∀ m ∈ session.made, ∀ failures, m.trace.result = .error (.allEndpointsFailed failures) →
    ∀ failure ∈ failures, failure.kind = .transport ∨ failure.kind = .httpStatus ∨ failure.kind = .parse

theorem named_start (s : σ) (tally : Tally) : Named tally (start s tally) where
  labels := fun _ ha => Or.inl ha
  kinds := fun _ hm => absurd hm List.not_mem_nil

/-- one more call keeps to the labels and to the stages -/
theorem named_step {f : Fetcher σ} (honest : f.transport.Honest) {tally : Tally} {session : Session σ}
    (h : Named tally session) (call : Call) : Named tally (step f session call) := by
  have hwalk := f.perform_eq_walk call session.state
  constructor
  · intro a ha
    rcases Tally.mem_attempts_countAll ha with ha | htick
    · exact h.labels a ha
    · rw [hwalk] at htick
      exact Or.inr (Acquisition.mem_labels_of_tick honest htick)
  · intro m hm failures hresult
    rcases List.mem_append.1 hm with hm | hm
    · exact h.kinds m hm failures hresult
    · obtain rfl := List.mem_singleton.1 hm
      rw [hwalk] at hresult
      intro failure hmem
      exact Acquisition.kind_of_mem_failures honest hresult hmem

theorem named_run {f : Fetcher σ} (honest : f.transport.Honest) {tally : Tally} {session : Session σ}
    (h : Named tally session) (calls : List Call) : Named tally (run f session calls) := by
  induction calls generalizing session with
  | nil => exact h
  | cons call calls ih => exact ih (named_step honest h call)

end Session

/-- a client fails in its own stage only -/
theorem Http.Client.honest_get {σ : Type} (c : Client) (net : Network σ) : (c.get net).Honest := by
  intro e s fault h
  unfold get at h
  split at h
  · exact ⟨_, (Except.error.inj h).symm⟩
  · split at h
    · exact ⟨_, (Except.error.inj h).symm⟩
    · split at h
      · cases h
      · exact ⟨_, (Except.error.inj h).symm⟩

namespace Acquisition

variable {σ : Type}

/-- **The label of an attempt names the stage that failed.** If the transport keeps to its own stage when it fails, each
attempt has the label that the outcome of its request deserves and no other; it is a success exactly if a credential comes of
it, and its label is that of the reading exactly if its fault is one of the reading. A call counts the attempts it makes under
these labels, and whatever calls are made, nothing is counted under another label and no candidate reported with a kind other
than the three that failures have. -/
theorem outcome_names_stage (f : Fetcher σ) (honest : f.transport.Honest) :
    (∀ e s label, Labelled (f.transport e s).result label ↔ labelOf (f.transport e s).credential = label) ∧
    (∀ e s, labelOf (f.transport e s).credential = "success" ↔ ∃ c, (f.transport e s).credential = .ok c) ∧
    (∀ e s, labelOf (f.transport e s).credential = "parse" ↔
      ∃ fault, (f.transport e s).credential = .error fault ∧ fault.isParseFault = true) ∧
    (∀ es s, (walk f.transport es s).ticks =
      (((attempts f.transport es s).take (walk f.transport es s).asked.length).map fun a => Tick.attempt (labelOf a)) ++
        if isExhausted (walk f.transport es s).result then [.failure] else []) ∧
    ∀ s tally calls, Session.Named tally (Session.run f (Session.start s tally) calls) := by
  refine ⟨?_, ?_, ?_, ?_, ?_⟩
  · intro e s label
    exact labelled_iff honest e s label
  · intro e s
    exact labelOf_eq_success_iff
  · intro e s
    exact labelOf_eq_parse_iff
  · intro es s
    exact ticks_walk f.transport es s
  · intro s tally calls
    exact Session.named_run honest (Session.named_start s tally) calls

/-- a transport that fails, then answers with a status that is no success, then without a document, and then well; the body
of the refused answer holds the same credential as the good one -/
def staged : Transport ℕ := fun _ n =>
  match n with
  | 0 => ⟨.error (.transport "connection refused"), [], 1⟩
  | 1 => ⟨.ok { sampleAnswer with status := 503 }, [], 2⟩
  | 2 => ⟨.ok { sampleAnswer with body := [] }, [], 3⟩
  | n => ⟨.ok sampleAnswer, [], n + 1⟩

theorem outcome_names_stage_staged :
    [0, 1, 2, 3].map (fun n => labelOf (staged ⟨"http://a"⟩ n).credential) =
        ["transport", "http_status", "parse", "success"] ∧
      Session.Named Tally.zero (Session.run ⟨.none, Http.Client.default.get Http.unreachable⟩
        (Session.start () Tally.zero) [.fetch, .fetchOnClone]) := by
  have honest : staged.Honest := by
    intro e n fault h
    unfold staged at h
    split at h
    · exact ⟨_, (Except.error.inj h).symm⟩
    · cases h
    · cases h
    · cases h
  obtain ⟨hlabel, -⟩ := outcome_names_stage ⟨.none, staged⟩ honest
  have hempty : Unusable [] := Unusable.noDocument fun d hd => by cases hd
  have hsample : ¬ Unusable sampleAnswer.body :=
    (Response.exists_credential_iff (by decide) (by decide)).1 ⟨_, credential_sampleAnswer⟩
  have hrefused := (hlabel ⟨"http://a"⟩ 0 "transport").1 (Labelled.transport _)
  have hstatus := (hlabel ⟨"http://a"⟩ 1 "http_status").1 (Labelled.httpStatus (Or.inr (by decide)))
  have hbody := (hlabel ⟨"http://a"⟩ 2 "parse").1 (Labelled.parse (by decide) (by decide) hempty)
  have hgood := (hlabel ⟨"http://a"⟩ 3 "success").1 (Labelled.success (by decide) (by decide) hsample)
  refine ⟨?_, (outcome_names_stage _ (Http.Client.honest_get _ _)).2.2.2.2 () Tally.zero _⟩
  simp only [List.map_cons, List.map_nil]
  rw [hrefused, hstatus, hbody, hgood]

end Acquisition

end CredentialFailover
