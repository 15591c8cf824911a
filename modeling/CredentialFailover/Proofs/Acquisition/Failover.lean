/-
Failover: the first healthy candidate decides, and without one every candidate has its entry.

The statement is about positions, since a candidate may stand in the list several times and a transport may answer it
differently each time: what counts at a position is the answer to the request made there, with the transport's state as
the requests before left it. Each answer is judged in three stages: the request, the document in the response, the credential
in the document.

Main fact: `walk_failover`.
-/
import CredentialFailover.Acquisition.Playback
import CredentialFailover.Proofs.Acquisition.Attempts
import CredentialFailover.Proofs.Credential.Rendering

namespace CredentialFailover.Acquisition

variable {σ : Type}

/-- **Failover.** Without candidates nothing is asked. If the attempt at some position is the first that gives a
credential, the candidates up to that position are asked, in order, and the credential is the result. If none gives one,
all candidates are asked, in order, and the result has one entry for each position, with the candidate at that position and
the kind and wording of the fault of the attempt at that position. An attempt is the answer at its position, judged stage by
stage: the first stage that fails gives its fault. -/
theorem walk_failover (transport : Transport σ) (es : List Endpoint) (s : σ) :
    (es = [] → walk transport es s = ⟨.error .noEndpointsConfigured, [], [], [], s⟩) ∧
    (∀ (p : ℕ) (c : Credential), (attempts transport es s)[p]? = some (.ok c) →
      (∀ i < p, ∃ fault, (attempts transport es s)[i]? = some (.error fault)) →
      (walk transport es s).asked = es.take (p + 1) ∧ (walk transport es s).result = .ok c ∧
        (walk transport es s).after = stateAfter transport (es.take (p + 1)) s) ∧
    (es ≠ [] → (∀ a ∈ attempts transport es s, ∃ fault, a = .error fault) →
      (walk transport es s).asked = es ∧ (walk transport es s).after = stateAfter transport es s ∧
        ∃ failures, (walk transport es s).result = .error (.allEndpointsFailed failures) ∧
          failures.length = es.length ∧
          ∀ (i : ℕ) (e : Endpoint), es[i]? = some e →
            ∃ fault, (attempts transport es s)[i]? = some (.error fault) ∧
              failures[i]? = some ⟨e, fault.kind, fault.message⟩) ∧
    attempts transport es s = (replies transport es s).map fun reply => (do
      let response ← reply.result
      let document ← response.document
      Credential.ofDocument document) := by
  have hlength := length_attempts transport es s
  refine ⟨?_, ?_, ?_, List.map_congr_left fun reply _ => reply.credential_eq_stages⟩
  · rintro rfl
    rfl
  · intro p c hp hbefore
    have hne : es ≠ [] := by
      rintro rfl
      cases hp
    obtain ⟨hresult, hasked, -, hafter⟩ := walkFrom_spec transport [] es s
    obtain ⟨hfirst, hpassed⟩ := passed_of_success hlength hp hbefore
    rw [walk_of_ne_nil transport hne]
    rw [hpassed] at hasked
    rw [hasked] at hafter
    refine ⟨hasked, ?_, hafter⟩
    rw [hresult, resultOf, hfirst]
  · intro hne hall
    obtain ⟨hresult, hasked, -, hafter⟩ := walkFrom_spec transport [] es s
    obtain ⟨hfirst, hpassed, hentries⟩ := passed_of_failures hlength hall
    rw [walk_of_ne_nil transport hne]
    rw [hpassed, List.take_of_length_le (Nat.le_succ _)] at hasked
    rw [hasked] at hafter
    refine ⟨hasked, hafter, passed es (attempts transport es s), ?_, hpassed, hentries⟩
    rw [hresult, resultOf, hfirst, List.nil_append]

/-! ## A candidate that recovers -/

/-- an answer with the sample credential -/
def sampleAnswer : Response := ⟨200, some "application/json", Utf8.bytes Credential.sample.render⟩

theorem credential_sampleAnswer : sampleAnswer.credential = .ok Credential.sample := by
  have hdocument : sampleAnswer.document = .ok Credential.sample.document :=
    Credential.sample.document_answer (by decide) (by decide) _
  rw [Response.credential, hdocument]
  exact Credential.ofDocument_sample

/-- a provider that refuses the first request and gives an answer to the ones after it -/
def recovering (answer : Response) : Playback := Playback.script [] "http://a" [Playback.refusal, .ok answer]

theorem replies_recovering (answer : Response) (es : List Endpoint) :
    ∃ after after', replies Playback.play (⟨"http://a"⟩ :: ⟨"http://a"⟩ :: es) (recovering answer) =
      ⟨Playback.refusal, [], after⟩ :: ⟨.ok answer, [], after'⟩ :: replies Playback.play es after' := ⟨_, _, rfl⟩

theorem walk_failover_recovering :
    ((walk Playback.play [⟨"http://a"⟩, ⟨"http://a"⟩, ⟨"http://b"⟩] (recovering sampleAnswer)).asked =
        [⟨"http://a"⟩, ⟨"http://a"⟩] ∧
      (walk Playback.play [⟨"http://a"⟩, ⟨"http://a"⟩, ⟨"http://b"⟩] (recovering sampleAnswer)).result =
        .ok Credential.sample) ∧
    (walk Playback.play [⟨"http://b"⟩, ⟨"http://b"⟩] []).asked = [⟨"http://b"⟩, ⟨"http://b"⟩] := by
  obtain ⟨after, after', hreplies⟩ := replies_recovering sampleAnswer [⟨"http://b"⟩]
  have hattempts : attempts Playback.play [⟨"http://a"⟩, ⟨"http://a"⟩, ⟨"http://b"⟩] (recovering sampleAnswer) =
      .error (.transport "connection refused") :: .ok Credential.sample ::
        attempts Playback.play [⟨"http://b"⟩] after' := by
    rw [attempts, hreplies, ← credential_sampleAnswer]
    rfl
  have hsecond : (attempts Playback.play [⟨"http://a"⟩, ⟨"http://a"⟩, ⟨"http://b"⟩] (recovering sampleAnswer))[1]? =
      some (.ok Credential.sample) := by
    rw [hattempts]
    rfl
  have hfirst : ∀ i < 1, ∃ fault, (attempts Playback.play [⟨"http://a"⟩, ⟨"http://a"⟩, ⟨"http://b"⟩]
      (recovering sampleAnswer))[i]? = some (.error fault) := by
    intro i hi
    obtain rfl : i = 0 := by omega
    rw [hattempts]
    exact ⟨_, rfl⟩
  obtain ⟨hasked, hresult, -⟩ := (walk_failover Playback.play _ (recovering sampleAnswer)).2.1 1 _ hsecond hfirst
  have hrefused : ∀ a ∈ attempts Playback.play [⟨"http://b"⟩, ⟨"http://b"⟩] [], ∃ fault, a = .error fault := by
    intro a ha
    have hall : attempts Playback.play [⟨"http://b"⟩, ⟨"http://b"⟩] [] =
        [.error (.transport "connection refused"), .error (.transport "connection refused")] := rfl
    rw [hall] at ha
    rcases List.mem_cons.1 ha with rfl | ha
    · exact ⟨_, rfl⟩
    · exact ⟨_, List.mem_singleton.1 ha⟩
  obtain ⟨hexhausted, -⟩ := (walk_failover Playback.play _ []).2.2.1 (by simp) hrefused
  exact ⟨⟨hasked, hresult⟩, hexhausted⟩

end CredentialFailover.Acquisition
