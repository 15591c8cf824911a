/-
A fetcher, and sessions of calls to it.

A fetcher has the overrides that give the candidates of a call without a list of its own, and a transport. A clone shares
the transport, and with it the transport's state. In a session calls are made one after the other in any order; the
transport's state and the counters go from call to call, and every call is kept with the state it began in and with what it
left behind.

Main fact: `perform_eq_walk` (every call is a walk over its candidates).
-/
import CredentialFailover.Acquisition.Walk

namespace CredentialFailover

/-- what acquires credentials -/
structure Fetcher (σ : Type) where
  overrides : Overrides
  transport : Transport σ

/-- the ways to call a fetcher -/
inductive Call where
  | fetch
  | fetchOnClone
  | fetchFrom (candidates : List Endpoint)
  deriving DecidableEq

namespace Fetcher

variable {σ : Type}

/-- a fetcher with the same overrides and the same transport -/
def clone (f : Fetcher σ) : Fetcher σ := ⟨f.overrides, f.transport⟩

/-- a call with given candidates -/
def fetchFrom (f : Fetcher σ) (candidates : List Endpoint) (s : σ) : Trace σ :=
  Acquisition.walk f.transport candidates s

/-- a call with the candidates that the overrides give -/
def fetch (f : Fetcher σ) (s : σ) : Trace σ := Acquisition.acquire f.transport f.overrides s

/-- a call of any kind -/
def perform (f : Fetcher σ) : Call → σ → Trace σ
  | .fetch, s => f.fetch s
  | .fetchOnClone, s => f.clone.fetch s
  | .fetchFrom candidates, s => f.fetchFrom candidates s

/-- the candidates of a call -/
def candidatesOf (f : Fetcher σ) : Call → List Endpoint
  | .fetch => f.overrides.candidates
  | .fetchOnClone => f.clone.overrides.candidates
  | .fetchFrom candidates => candidates

theorem perform_eq_walk (f : Fetcher σ) (call : Call) (s : σ) :
    f.perform call s = Acquisition.walk f.transport (f.candidatesOf call) s := by
  cases call <;> rfl

end Fetcher

/-- a call that was made: the state it began in, and what it left behind -/
structure Made (σ : Type) where
  call : Call
  start : σ
  trace : Trace σ

/-- a session so far -/
structure Session (σ : Type) where
  state : σ
  tally : Tally
  /-- the calls made, in order -/
  made : List (Made σ)

namespace Session

variable {σ : Type}

/-- a session without calls -/
def start (s : σ) (tally : Tally) : Session σ := ⟨s, tally, []⟩

/-- one more call -/
def step (f : Fetcher σ) (session : Session σ) (call : Call) : Session σ :=
  let trace := f.perform call session.state
  ⟨trace.after, session.tally.countAll trace.ticks, session.made ++ [⟨call, session.state, trace⟩]⟩

/-- calls one after the other -/
def run (f : Fetcher σ) (session : Session σ) (calls : List Call) : Session σ := calls.foldl (step f) session

end Session

end CredentialFailover
