/-
Acquiring a credential from the first healthy candidate.

A transport answers one request for an endpoint, from a state of its own that the answer may change. An attempt asks a
candidate and judges the answer in three stages: the transport, the document it carries, the credential in the document.
`walk` attempts candidates in their order and ends with the first credential; later candidates are not asked, nothing is
tried twice, and a failure is kept with its candidate. A call leaves behind its result, the endpoints asked, the events
logged, what was counted, and the transport's state.

Main facts: `walkFrom_cons_ok`, `walkFrom_cons_error` (a walk is one attempt and a walk from there).
-/
import CredentialFailover.Acquisition.Tally
import CredentialFailover.Credential.Basic
import CredentialFailover.Endpoint.Candidates
import CredentialFailover.Log.Event
import CredentialFailover.Response.Basic

namespace CredentialFailover

/-- one answer of a transport: what came of the request, what was logged meanwhile, and the state after it -/
structure Reply (σ : Type) where
  result : Except Fault Response
  log : List Event
  after : σ

/-- a transport answers a request for an endpoint from a state of its own -/
abbrev Transport (σ : Type) := Endpoint → σ → Reply σ

/-- what a call leaves behind -/
structure Trace (σ : Type) where
  result : Except Fault Credential
  /-- the endpoints asked, in order -/
  asked : List Endpoint
  log : List Event
  ticks : List Tick
  after : σ

/-- the credential in a response -/
def Response.credential (r : Response) : Except Fault Credential :=
  match r.document with
  | .error fault => .error fault
  | .ok d => Credential.ofDocument d

/-- what comes of a reply, judged in all three stages -/
def Reply.credential {σ : Type} (r : Reply σ) : Except Fault Credential :=
  match r.result with
  | .error fault => .error fault
  | .ok response => response.credential

/-- a trace with an attempt before it -/
def Trace.before {σ : Type} (endpoint : Endpoint) (log : List Event) (tick : Tick) (t : Trace σ) : Trace σ :=
  { t with asked := endpoint :: t.asked, log := log ++ t.log, ticks := tick :: t.ticks }

namespace Acquisition

/-- the end of a walk in which every candidate failed -/
def exhausted {σ : Type} (failures : List EndpointFailure) (s : σ) : Trace σ :=
  let fault := Fault.allEndpointsFailed failures
  ⟨.error fault, [], [.exhausted failures.length fault], [.failure], s⟩

/-- a walk over candidates after those that failed -/
def walkFrom {σ : Type} (transport : Transport σ) : List EndpointFailure → List Endpoint → σ → Trace σ
  | failures, [], s => exhausted failures s
  | failures, e :: es, s =>
    let reply := transport e s
    match reply.credential with
    | .ok c =>
      ⟨.ok c, [e], .trying e :: reply.log ++ [.acquired e failures.length, .obtained c], [.attempt "success"], reply.after⟩
    | .error fault =>
      let failure := fault.failureOf e
      (walkFrom transport (failures ++ [failure]) es reply.after).before e
        (.trying e :: reply.log ++ [.failed failure]) (.attempt fault.kind.label)

theorem walkFrom_cons_ok {σ : Type} (transport : Transport σ) (failures : List EndpointFailure) (e : Endpoint)
    (es : List Endpoint) (s : σ) {c : Credential} (h : (transport e s).credential = .ok c) :
    walkFrom transport failures (e :: es) s =
      ⟨.ok c, [e], .trying e :: (transport e s).log ++ [.acquired e failures.length, .obtained c],
        [.attempt "success"], (transport e s).after⟩ := by
  simp [walkFrom, h]

theorem walkFrom_cons_error {σ : Type} (transport : Transport σ) (failures : List EndpointFailure) (e : Endpoint)
    (es : List Endpoint) (s : σ) {fault : Fault} (h : (transport e s).credential = .error fault) :
    walkFrom transport failures (e :: es) s =
      (walkFrom transport (failures ++ [fault.failureOf e]) es (transport e s).after).before e
        (.trying e :: (transport e s).log ++ [.failed (fault.failureOf e)]) (.attempt fault.kind.label) := by
  simp [walkFrom, h]

/-- a call with given candidates -/
def walk {σ : Type} (transport : Transport σ) (candidates : List Endpoint) (s : σ) : Trace σ :=
  match candidates with
  | [] => ⟨.error .noEndpointsConfigured, [], [], [], s⟩
  | es => walkFrom transport [] es s

/-- a call with the candidates that the overrides give -/
def acquire {σ : Type} (transport : Transport σ) (overrides : Overrides) (s : σ) : Trace σ :=
  walk transport overrides.candidates s

end Acquisition

end CredentialFailover
