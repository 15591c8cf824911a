/-
A call with the candidates that the overrides give.

There is always a candidate and none stands in the list twice, so the call has somebody to ask and asks nobody twice. When
it fails, all of them have failed.

Main fact: `fetch_asks_candidates`.
-/
import CredentialFailover.Acquisition.Session
import CredentialFailover.Acquisition.Playback
import CredentialFailover.Proofs.Acquisition.Attempts
import CredentialFailover.Proofs.Endpoint.Candidates

namespace CredentialFailover

namespace Endpoint

theorem text_injective : Function.Injective Endpoint.text := fun ⟨_⟩ ⟨_⟩ h => congrArg Endpoint.mk h

end Endpoint

namespace Acquisition

variable {σ : Type}

/-- without a credential the candidates passed over are all of them, in order -/
theorem map_endpoint_passed {es : List Endpoint} {as : List (Except Fault Credential)} (hlength : as.length = es.length)
    (h : first? as = none) : (passed es as).map EndpointFailure.endpoint = es := by
  induction as generalizing es with
  | nil =>
    obtain rfl := List.length_eq_zero_iff.1 hlength.symm
    rfl
  | cons a as ih =>
    cases es with
    | nil => cases hlength
    | cons e es =>
      cases a with
      | ok c => cases h
      | error fault => exact congrArg (e :: ·) (ih (Nat.succ.inj hlength) h)

/-- a walk over candidates asks some of them in front, and fails only with an entry for each of them -/
theorem walk_of_candidates (transport : Transport σ) {es : List Endpoint} (hne : es ≠ []) (s : σ) :
    (walk transport es s).asked <+: es ∧
      ∀ fault, (walk transport es s).result = .error fault →
        ∃ failures, fault = .allEndpointsFailed failures ∧ failures.map EndpointFailure.endpoint = es := by
  obtain ⟨hresult, hasked, -, -⟩ := walkFrom_spec transport [] es s
  rw [walk_of_ne_nil transport hne, hasked, hresult]
  refine ⟨List.take_prefix _ _, ?_⟩
  intro fault hfault
  cases hfirst : first? (attempts transport es s) with
  | some c => simp [resultOf, hfirst] at hfault
  | none =>
    simp only [resultOf, hfirst, List.nil_append, Except.error.injEq] at hfault
    exact ⟨_, hfault.symm, map_endpoint_passed (length_attempts transport es s) hfirst⟩

end Acquisition

namespace Fetcher

variable {σ : Type}

/-- **Whatever is set, there are candidates to ask, and none is asked twice.** The candidates are those that the overrides
make, the list alone deciding as soon as it names one; each has a text without blanks at its ends. A call asks no text
twice, never comes back without anybody to ask, and fails only with an entry for every candidate, in order. -/
theorem fetch_asks_candidates (f : Fetcher σ) (s : σ) :
    (f.overrides.candidates ≠ [] ∧ f.overrides.candidates.Nodup ∧ ∀ e ∈ f.overrides.candidates, e.IsProper) ∧
    (f.fetch s).result ≠ .error .noEndpointsConfigured ∧
    ((f.fetch s).asked <+: f.overrides.candidates ∧ ((f.fetch s).asked.map Endpoint.text).Nodup) ∧
    (∀ fault, (f.fetch s).result = .error fault →
      ∃ failures, fault = .allEndpointsFailed failures ∧
        failures.map EndpointFailure.endpoint = f.overrides.candidates) ∧
    f.overrides.Makes f.overrides.candidates ∧
    (f.overrides.tokens ≠ [] → ∀ server, (Overrides.mk f.overrides.servers server).candidates = f.overrides.candidates) := by
  have hmakes : f.overrides.Makes f.overrides.candidates := Overrides.makes_iff.2 rfl
  have hnodup : f.overrides.candidates.Nodup := f.overrides.nodup_candidates
  obtain ⟨hasked, hfailed⟩ := Acquisition.walk_of_candidates f.transport hmakes.ne_nil s
  refine ⟨⟨hmakes.ne_nil, hnodup, hmakes.isProper⟩, ?_, ⟨hasked, ?_⟩, hfailed, hmakes, ?_⟩
  · intro hnone
    obtain ⟨failures, hfault, -⟩ := hfailed _ hnone
    cases hfault
  · exact (hnodup.sublist hasked.sublist).map Endpoint.text_injective
  · intro htokens server
    exact Overrides.candidates_of_tokens rfl htokens

/-- a list that names two providers, one of them twice, beside a single address -/
def listing : Fetcher Playback := ⟨⟨some "http://b,\thttp://a\n;; http://b", some "http://c"⟩, Playback.play⟩

/-- a list of separators alone, beside a single address that is one of the local providers -/
def separating : Fetcher Playback := ⟨⟨some " ,; ", some "\thttp://localhost:6969 "⟩, Playback.play⟩

theorem fetch_asks_candidates_listing :
    (listing.overrides.tokens = [⟨"http://b"⟩, ⟨"http://a"⟩, ⟨"http://b"⟩] ∧
      (Overrides.mk listing.overrides.servers none).candidates = listing.overrides.candidates) ∧
    ∃ failures, (separating.fetch []).result = .error (.allEndpointsFailed failures) ∧
      failures.map EndpointFailure.endpoint = [⟨"http://localhost:6969"⟩, ⟨"http://127.0.0.1:6969"⟩] := by
  obtain ⟨-, -, -, -, -, hlist⟩ := fetch_asks_candidates listing []
  obtain ⟨-, -, -, hfailed, -, -⟩ := fetch_asks_candidates separating []
  have htokens : listing.overrides.tokens = [⟨"http://b"⟩, ⟨"http://a"⟩, ⟨"http://b"⟩] := by decide
  have hcandidates : separating.overrides.candidates = [⟨"http://localhost:6969"⟩, ⟨"http://127.0.0.1:6969"⟩] := by
    decide
  have hrefused : ∃ fault, (separating.fetch []).result = .error fault := by
    rw [fetch, Acquisition.acquire, hcandidates]
    exact ⟨_, rfl⟩
  refine ⟨⟨htokens, hlist (by simp [htokens]) none⟩, ?_⟩
  obtain ⟨fault, hfault⟩ := hrefused
  obtain ⟨failures, rfl, hendpoints⟩ := hfailed fault hfault
  exact ⟨failures, hfault, hendpoints.trans hcandidates⟩

end Fetcher

end CredentialFailover
