/-
Nothing that a call does or shows depends on the two secrets.

Two transports are compared that answer alike: each pair of answers is the same, or is a pair of successes whose documents
differ in the texts of the two secrets at most. The secrets only have to be texts to pass every check, no wording of a fault
contains a text of theirs, and a credential is shown without them; so both calls ask the same candidates, count the same,
show the same events, and end with the same fault or with credentials that differ in their secrets at most.

The events of a call are told apart from those of its transport by silencing the transport, which changes nothing else
(`walk_silent`).

Main fact: `walk_alike`.
-/
import CredentialFailover.Proofs.Acquisition.Failover

namespace CredentialFailover

/-! ## Documents and credentials but for the secrets -/

/-- objects with the same members, but for the texts under the keys of the secrets -/
def SameButSecrets (ms ms' : List (String × Json.Value)) : Prop :=
  ∀ key, Keyed.get? key ms = Keyed.get? key ms' ∨
    ∃ f : Field, f.isSecret = true ∧ f.key = key ∧
      ∃ s s', Keyed.get? key ms = some (.text s) ∧ Keyed.get? key ms' = some (.text s')

/-- the same outcome of a request, or successes whose documents are the same but for the secrets -/
inductive Alike : Except Fault Response → Except Fault Response → Prop where
  | same (r : Except Fault Response) : Alike r r
  | secrets {status : ℕ} {contentType : Option String} {body body' : List UInt8} {ms ms' : List (String × Json.Value)}
      (hsuccess : Response.isSuccess status = true) (hbody : Json.document body = .ok (.object ms))
      (hbody' : Json.document body' = .ok (.object ms')) (h : SameButSecrets ms ms') :
      Alike (.ok ⟨status, contentType, body⟩) (.ok ⟨status, contentType, body'⟩)

/-- the same fault, or credentials that agree in everything but the secrets -/
inductive ResultAlike : Except Fault Credential → Except Fault Credential → Prop where
  | fault (fault : Fault) : ResultAlike (.error fault) (.error fault)
  | credential (c : Credential) (machineId oneTimePassword : Secret) :
      ResultAlike (.ok c) (.ok { c with machineId, oneTimePassword })

theorem ResultAlike.refl (r : Except Fault Credential) : ResultAlike r r := by
  cases r with
  | error fault => exact ResultAlike.fault fault
  | ok c => exact ResultAlike.credential c c.machineId c.oneTimePassword

/-- what a log shows of an event -/
def Event.shown (e : Event) : Level × Source × List (String × Json.Value) := (e.level, e.source, e.fields)

theorem Event.shown_obtained (c : Credential) (machineId oneTimePassword : Secret) :
    (obtained { c with machineId, oneTimePassword }).shown = (obtained c).shown := by
  rw [shown, fields_obtained_congr]
  rfl

theorem Field.key_injective : Function.Injective Field.key := by
  have hnodup : (Field.all.map Field.key).Nodup := by decide
  intro f g h
  exact List.inj_on_of_nodup_map hnodup f.mem_all g.mem_all h

namespace Credential

/-- a field is at fault in both objects or in none: a secret has to be a text, and is one in both -/
theorem fieldFault?_congr {ms ms' : List (String × Json.Value)} (h : SameButSecrets ms ms') (f : Field) :
    fieldFault? f (Keyed.get? f.key ms) = fieldFault? f (Keyed.get? f.key ms') := by
  rcases h f.key with hsame | ⟨-, -, -, s, s', hs, hs'⟩
  · rw [hsame]
  · rw [hs, hs']
    rfl

theorem textOf_congr {ms ms' : List (String × Json.Value)} (h : SameButSecrets ms ms') {f : Field}
    (hf : f.isSecret = false) : textOf ms f = textOf ms' f := by
  rcases h f.key with hsame | ⟨g, hg, hkey, -⟩
  · rw [textOf, textOf, hsame]
  · obtain rfl := Field.key_injective hkey
    rw [hf] at hg
    cases hg

/-- the fault of a text and the other fields of a credential come from the texts that are no secrets -/
theorem ofTexts_alike {text text' : Field → String} (h : ∀ f : Field, f.isSecret = false → text f = text' f) :
    ResultAlike (ofTexts text) (ofTexts text') := by
  unfold ofTexts
  rw [h .clientTime rfl]
  split
  · exact ResultAlike.fault _
  · rw [h .localUserId rfl, h .routing rfl, h .deviceId rfl, h .serialNumber rfl, h .clientInfo rfl, h .locale rfl,
      h .timeZone rfl]
    exact ResultAlike.credential _ _ _

theorem ofMembers_alike {ms ms' : List (String × Json.Value)} (h : SameButSecrets ms ms') :
    ResultAlike (ofMembers ms) (ofMembers ms') := by
  have hfault : firstFault? ms = firstFault? ms' := by simp only [firstFault?, fieldFault?_congr h]
  rw [ofMembers, ofMembers, hfault]
  split
  · exact ResultAlike.fault _
  · exact ofTexts_alike fun f hf => textOf_congr h hf

end Credential

/-- replies that are alike are judged alike -/
theorem Reply.credential_alike {σ σ' : Type} {r : Reply σ} {r' : Reply σ'} (h : Alike r.result r'.result) :
    ResultAlike r.credential r'.credential := by
  obtain ⟨result, log, after⟩ := r
  obtain ⟨result', log', after'⟩ := r'
  cases h with
  | same => exact ResultAlike.refl _
  | secrets hsuccess hbody hbody' hms =>
    rw [Reply.credential, Reply.credential]
    simp only [Response.credential, Response.document_of_success hsuccess _ hbody,
      Response.document_of_success hsuccess _ hbody', Credential.ofDocument_object]
    exact Credential.ofMembers_alike hms

/-! ## Silent transports -/

/-- a transport that logs nothing of its own -/
def Transport.silent {σ : Type} (transport : Transport σ) : Transport σ := fun e s => { transport e s with log := [] }

namespace Acquisition

variable {σ σ' : Type}

theorem replies_silent (transport : Transport σ) (es : List Endpoint) (s : σ) :
    replies transport.silent es s = (replies transport es s).map fun r => { r with log := [] } := by
  induction es generalizing s with
  | nil => rfl
  | cons e es ih => exact congrArg (transport.silent e s :: ·) (ih (transport e s).after)

theorem walkFrom_silent (transport : Transport σ) (failures : List EndpointFailure) (es : List Endpoint) (s : σ) :
    walkFrom transport.silent failures es s =
      { walkFrom transport failures es s with log := (walkFrom transport.silent failures es s).log } := by
  induction es generalizing failures s with
  | nil => rfl
  | cons e es ih =>
    cases hattempt : (transport e s).credential with
    | ok c =>
      rw [walkFrom_cons_ok transport failures e es s hattempt,
        walkFrom_cons_ok transport.silent failures e es s hattempt]
      rfl
    | error fault =>
      rw [walkFrom_cons_error transport failures e es s hattempt,
        walkFrom_cons_error transport.silent failures e es s hattempt]
      have hrest := ih (failures ++ [fault.failureOf e]) (transport e s).after
      exact congrArg (fun t => Trace.before e _ (.attempt fault.kind.label) t) hrest

/-- a silent transport changes nothing but the log -/
theorem walk_silent (transport : Transport σ) (es : List Endpoint) (s : σ) :
    walk transport.silent es s = { walk transport es s with log := (walk transport.silent es s).log } := by
  cases es with
  | nil => rfl
  | cons e es => exact walkFrom_silent transport [] (e :: es) s

/-! ## Two runs -/

/-- replies alike, with the same events shown meanwhile -/
def ReplyAlike (r : Reply σ) (r' : Reply σ') : Prop :=
  Alike r.result r'.result ∧ r.log.map Event.shown = r'.log.map Event.shown

/-- calls that ask the same, count the same, show the same and end alike -/
structure TraceAlike (t : Trace σ) (t' : Trace σ') : Prop where
  asked : t.asked = t'.asked
  ticks : t.ticks = t'.ticks
  result : ResultAlike t.result t'.result
  log : t.log.map Event.shown = t'.log.map Event.shown

/-- walks over replies that are alike, one after the other, are alike: up to the first credential both see the same faults,
and one of them sees a credential where the other does -/
theorem walkFrom_alike {transport : Transport σ} {transport' : Transport σ'} {es : List Endpoint} {s : σ} {s' : σ'}
    (h : List.Forall₂ ReplyAlike (replies transport es s) (replies transport' es s')) (failures : List EndpointFailure) :
    TraceAlike (walkFrom transport failures es s) (walkFrom transport' failures es s') := by
  induction es generalizing failures s s' with
  | nil => exact ⟨rfl, rfl, ResultAlike.fault _, rfl⟩
  | cons e es ih =>
    obtain ⟨⟨hresult, hlog⟩, hrest⟩ := List.forall₂_cons.1 h
    have hcredential := Reply.credential_alike hresult
    generalize hattempt : (transport e s).credential = a at hcredential
    generalize hattempt' : (transport' e s').credential = a' at hcredential
    cases hcredential with
    | credential c machineId oneTimePassword =>
      rw [walkFrom_cons_ok transport failures e es s hattempt, walkFrom_cons_ok transport' failures e es s' hattempt']
      refine ⟨rfl, rfl, ResultAlike.credential c machineId oneTimePassword, ?_⟩
      simp only [List.map_append, List.map_cons, List.map_nil, hlog, Event.shown_obtained]
    | fault fault =>
      rw [walkFrom_cons_error transport failures e es s hattempt,
        walkFrom_cons_error transport' failures e es s' hattempt']
      obtain ⟨hasked, hticks, hresult, hlogs⟩ := ih hrest (failures ++ [fault.failureOf e])
      refine ⟨congrArg (e :: ·) hasked, congrArg (Tick.attempt fault.kind.label :: ·) hticks, hresult, ?_⟩
      simp only [Trace.before, List.map_append, List.map_cons, List.map_nil, hlog, hlogs]

theorem walk_alike_of_replies {transport : Transport σ} {transport' : Transport σ'} {es : List Endpoint} {s : σ} {s' : σ'}
    (h : List.Forall₂ ReplyAlike (replies transport es s) (replies transport' es s')) :
    TraceAlike (walk transport es s) (walk transport' es s') := by
  cases es with
  | nil => exact ⟨rfl, rfl, ResultAlike.fault _, rfl⟩
  | cons e es => exact walkFrom_alike h []

/-- silent transports show nothing, so alike answers are enough -/
theorem replyAlike_silent {rs : List (Reply σ)} {rs' : List (Reply σ')}
    (h : List.Forall₂ (fun r r' => Alike r.result r'.result) rs rs') :
    List.Forall₂ ReplyAlike (rs.map fun r => { r with log := [] }) (rs'.map fun r => { r with log := [] }) := by
  rw [List.forall₂_map_left_iff, List.forall₂_map_right_iff]
  exact h.imp fun _ _ hresult => ⟨hresult, rfl⟩

/-- answers alike and events that show the same, put together -/
theorem replyAlike_of_shown {rs : List (Reply σ)} {rs' : List (Reply σ')}
    (h : List.Forall₂ (fun r r' => Alike r.result r'.result) rs rs')
    (hshown : List.Forall₂ (fun r r' => r.log.map Event.shown = r'.log.map Event.shown) rs rs') :
    List.Forall₂ ReplyAlike rs rs' := by
  induction h with
  | nil => exact List.Forall₂.nil
  | cons hresult _ ih =>
    obtain ⟨hlog, hrest⟩ := List.forall₂_cons.1 hshown
    exact List.Forall₂.cons ⟨hresult, hlog⟩ (ih hrest)

/-- **The secrets are kept from everything but the credential itself.** Calls with the same candidates, over transports
whose answers are alike one after the other, ask the same candidates in the same order, count the same, show the same
events of their own, and end with the same fault or with credentials that agree in everything but the secrets. If the
transports show the same events meanwhile, the whole logs show the same. -/
theorem walk_alike (transport : Transport σ) (transport' : Transport σ') (es : List Endpoint) (s : σ) (s' : σ')
    (h : List.Forall₂ (fun r r' => Alike r.result r'.result) (replies transport es s) (replies transport' es s')) :
    (walk transport es s).asked = (walk transport' es s').asked ∧
    (walk transport es s).ticks = (walk transport' es s').ticks ∧
    ResultAlike (walk transport es s).result (walk transport' es s').result ∧
    (walk transport.silent es s).log.map Event.shown = (walk transport'.silent es s').log.map Event.shown ∧
    (List.Forall₂ (fun r r' => r.log.map Event.shown = r'.log.map Event.shown)
        (replies transport es s) (replies transport' es s') →
      (walk transport es s).log.map Event.shown = (walk transport' es s').log.map Event.shown) := by
  have hsilent : List.Forall₂ ReplyAlike (replies transport.silent es s) (replies transport'.silent es s') := by
    rw [replies_silent, replies_silent]
    exact replyAlike_silent h
  obtain ⟨hasked, hticks, hresult, hlog⟩ := walk_alike_of_replies hsilent
  rw [walk_silent transport, walk_silent transport'] at hasked hticks hresult
  refine ⟨hasked, hticks, hresult, hlog, ?_⟩
  intro hshown
  exact (walk_alike_of_replies (replyAlike_of_shown h hshown)).log

/-! ## Two providers with different secrets -/

/-- documents of credentials that agree in everything but the secrets -/
theorem sameButSecrets_document (c : Credential) (machineId oneTimePassword : Secret) :
    SameButSecrets (Keyed.ofList (c.headers.map fun h => (h.1, Json.Value.text h.2)))
      (Keyed.ofList
        (({ c with machineId, oneTimePassword } : Credential).headers.map fun h => (h.1, Json.Value.text h.2))) := by
  intro key
  by_cases hkey : ∃ f : Field, f.key = key
  · obtain ⟨f, rfl⟩ := hkey
    rw [c.get?_document, Credential.get?_document]
    by_cases hf : f.isSecret = true
    · exact Or.inr ⟨f, hf, rfl, _, _, rfl, rfl⟩
    · refine Or.inl ?_
      cases f <;> first | rfl | exact absurd rfl hf
  · have hnot : ∀ d : Credential, ∀ m ∈ d.headers.map fun h => (h.1, Json.Value.text h.2), m.1 ≠ key := by
      rintro d m hm rfl
      obtain ⟨_, hheader, rfl⟩ := List.mem_map.1 hm
      obtain ⟨f, -, rfl⟩ := List.mem_map.1 hheader
      exact hkey ⟨f, rfl⟩
    have habsent : ∀ d : Credential,
        Keyed.get? key (Keyed.ofList (d.headers.map fun h => (h.1, Json.Value.text h.2))) = none :=
      fun d => Keyed.get?_eq_none_of_ne fun m hm => hnot d m (Keyed.mem_of_mem_ofList hm)
    exact Or.inl ((habsent c).trans (habsent _).symm)

/-- an answer with the sample credential, but for its secrets -/
def otherAnswer : Response :=
  ⟨200, some "application/json",
    Utf8.bytes ({ Credential.sample with machineId := ⟨"x"⟩, oneTimePassword := ⟨"y"⟩ } : Credential).render⟩

theorem walk_alike_recovering :
    (walk Playback.play [⟨"http://a"⟩, ⟨"http://a"⟩] (recovering sampleAnswer)).log.map Event.shown =
      (walk Playback.play [⟨"http://a"⟩, ⟨"http://a"⟩] (recovering otherAnswer)).log.map Event.shown := by
  obtain ⟨after, after', hreplies⟩ := replies_recovering sampleAnswer []
  obtain ⟨other, other', hothers⟩ := replies_recovering otherAnswer []
  have hanswer : Alike (.ok sampleAnswer) (.ok otherAnswer) :=
    Alike.secrets (by decide) (Credential.document_render _) (Credential.document_render _)
      (sameButSecrets_document Credential.sample ⟨"x"⟩ ⟨"y"⟩)
  have halike : List.Forall₂ (fun r r' => Alike r.result r'.result)
      (replies Playback.play [⟨"http://a"⟩, ⟨"http://a"⟩] (recovering sampleAnswer))
      (replies Playback.play [⟨"http://a"⟩, ⟨"http://a"⟩] (recovering otherAnswer)) := by
    rw [hreplies, hothers]
    exact List.Forall₂.cons (Alike.same Playback.refusal) (List.Forall₂.cons hanswer List.Forall₂.nil)
  refine (walk_alike Playback.play Playback.play _ _ _ halike).2.2.2.2 ?_
  rw [hreplies, hothers]
  exact List.Forall₂.cons rfl (List.Forall₂.cons rfl List.Forall₂.nil)

end Acquisition

end CredentialFailover
