/-
The counters account for every request and every call of a session.

One walk counts an attempt for each candidate it asks, under the label of its fault or as a success, and a failed
acquisition if it ends without a credential (`walk_counts`). In a session the counts of the walks add up on top of what the
counters held before (`Balanced`), and a counter never goes down.

Main fact: `run_conserves`.
-/
import CredentialFailover.Acquisition.Session
import CredentialFailover.Proofs.Acquisition.Failover

namespace CredentialFailover

theorem Fault.Kind.label_ne_success (kind : Fault.Kind) : kind.label ≠ "success" := by
  cases kind <;> decide

/-- the result of a call in which every candidate failed -/
def isExhausted : Except Fault Credential → Bool
  | .error (.allEndpointsFailed _) => true
  | _ => false

namespace Acquisition

variable {σ : Type}

/-! ## One walk -/

/-- the failures of candidates in a call: those it reports, or those it passed over before a credential -/
def failuresOf (transport : Transport σ) (es : List Endpoint) (s : σ) : Except Fault Credential → List EndpointFailure
  | .error (.allEndpointsFailed failures) => failures
  | _ => passed es (attempts transport es s)

theorem count_failure_ticksOf (es : List Endpoint) (as : List (Except Fault Credential)) :
    (ticksOf es as).count .failure = if (first? as).isSome then 0 else 1 := by
  have hpassed : ((passed es as).map fun f => Tick.attempt f.kind.label).count .failure = 0 := by
    refine List.count_eq_zero.2 ?_
    intro hmem
    obtain ⟨f, -, hf⟩ := List.mem_map.1 hmem
    cases hf
  rw [ticksOf, List.count_append, hpassed, Nat.zero_add]
  split <;> rfl

/-- under a label the failures of that label are counted, as successes the credential -/
theorem count_attempt_ticksOf (es : List Endpoint) (as : List (Except Fault Credential)) (label : String) :
    (ticksOf es as).count (.attempt label) =
      if label = "success" then (if (first? as).isSome then 1 else 0)
      else (passed es as).countP fun f => f.kind.label = label := by
  have hpassed : ((passed es as).map fun f => Tick.attempt f.kind.label).count (.attempt label) =
      (passed es as).countP fun f => f.kind.label = label := by
    rw [List.count_eq_countP, List.countP_map]
    refine List.countP_congr fun f _ => ?_
    simp
  rw [ticksOf, List.count_append, hpassed]
  by_cases hlabel : label = "success"
  · subst hlabel
    have hnone : ((passed es as).countP fun f => f.kind.label = "success") = 0 :=
      List.countP_eq_zero.2 fun f _ => by simpa using f.kind.label_ne_success
    rw [hnone, Nat.zero_add, if_pos rfl]
    split <;> rfl
  · have hlast : [if (first? as).isSome = true then Tick.attempt "success" else Tick.failure].count (.attempt label) = 0 := by
      refine List.count_eq_zero.2 ?_
      intro hmem
      split at hmem
      · exact hlabel (Tick.attempt.inj (List.mem_singleton.1 hmem))
      · cases List.mem_singleton.1 hmem
    rw [hlast, Nat.add_zero, if_neg hlabel]

/-- **What one call counts**: its requests, its credential, its failures by label, and itself if it failed. -/
theorem walk_counts (transport : Transport σ) (es : List Endpoint) (s : σ) :
    (walk transport es s).ticks.length =
        (walk transport es s).asked.length + (walk transport es s).ticks.count .failure ∧
      (∀ label, (walk transport es s).ticks.count (.attempt label) =
        if label = "success" then (if (walk transport es s).result.isOk then 1 else 0)
        else (failuresOf transport es s (walk transport es s).result).countP fun f => f.kind.label = label) ∧
      (walk transport es s).ticks.count .failure = if isExhausted (walk transport es s).result then 1 else 0 := by
  cases es with
  | nil =>
    refine ⟨rfl, fun label => ?_, rfl⟩
    split <;> rfl
  | cons e es =>
    obtain ⟨hresult, hasked, hticks, -⟩ := walkFrom_spec transport [] (e :: es) s
    have hwalk : walk transport (e :: es) s = walkFrom transport [] (e :: es) s := rfl
    rw [hwalk, hresult, hasked, hticks]
    have hlength : (ticksOf (e :: es) (attempts transport (e :: es) s)).length =
        (passed (e :: es) (attempts transport (e :: es) s)).length + 1 := by
      simp [ticksOf]
    rw [hlength, count_failure_ticksOf, List.length_take]
    simp only [count_attempt_ticksOf]
    rcases length_passed (length_attempts transport (e :: es) s) with ⟨hfirst, hpassed⟩ | ⟨hfirst, hpassed⟩
    · obtain ⟨c, hc⟩ := Option.isSome_iff_exists.1 hfirst
      have hok : resultOf [] (e :: es) (attempts transport (e :: es) s) = .ok c := by rw [resultOf, hc]
      rw [hok, hfirst]
      refine ⟨?_, fun label => rfl, rfl⟩
      rw [if_pos rfl]
      omega
    · have herror : resultOf [] (e :: es) (attempts transport (e :: es) s) =
          .error (.allEndpointsFailed (passed (e :: es) (attempts transport (e :: es) s))) := by
        rw [resultOf, hfirst]
        rfl
      rw [herror, hfirst]
      refine ⟨?_, fun label => rfl, rfl⟩
      rw [if_neg (by simp), hpassed]
      omega

end Acquisition

/-! ## Sessions -/

/-- the failures of candidates in a call that was made -/
def Fetcher.failuresIn {σ : Type} (f : Fetcher σ) (m : Made σ) : List EndpointFailure :=
  Acquisition.failuresOf f.transport (f.candidatesOf m.call) m.start m.trace.result

namespace Session

variable {σ : Type}

/-- the counters hold what they held before the session, and what its calls did -/
structure Balanced (f : Fetcher σ) (tally : Tally) (session : Session σ) : Prop where
  /-- every call is kept with what it left behind -/
  kept : ∀ m ∈ session.made, m.trace = f.perform m.call m.start
  /-- attempts are requests -/
  total : session.tally.total = tally.total + (session.made.map fun m => m.trace.asked.length).sum
  /-- successes are calls with a credential, every other label has the failures of its kind -/
  attempts : ∀ label, session.tally.attemptsOf label = tally.attemptsOf label +
    if label = "success" then session.made.countP fun m => m.trace.result.isOk
    else (session.made.flatMap f.failuresIn).countP fun failure => failure.kind.label = label
  /-- failed acquisitions are calls in which every candidate failed -/
  failures : session.tally.failures = tally.failures + session.made.countP fun m => isExhausted m.trace.result

theorem balanced_start (f : Fetcher σ) (s : σ) (tally : Tally) : Balanced f tally (start s tally) where
  kept := fun m hm => absurd hm List.not_mem_nil
  total := rfl
  attempts := fun label => by split <;> rfl
  failures := rfl

/-- one more call keeps the balance -/
theorem balanced_step {f : Fetcher σ} {tally : Tally} {session : Session σ} (h : Balanced f tally session)
    (call : Call) : Balanced f tally (step f session call) := by
  obtain ⟨hlength, hattempts, hfailures⟩ :=
    Acquisition.walk_counts f.transport (f.candidatesOf call) session.state
  rw [← f.perform_eq_walk] at hlength hattempts hfailures
  refine ⟨?_, ?_, ?_, ?_⟩
  · intro m hm
    rcases List.mem_append.1 hm with hm | hm
    · exact h.kept m hm
    · obtain rfl := List.mem_singleton.1 hm
      rfl
  · have hcount := Tally.total_countAll session.tally (f.perform call session.state).ticks
    have hbefore := h.total
    simp only [step, List.map_append, List.sum_append, List.map_cons, List.map_nil, List.sum_cons, List.sum_nil]
    omega
  · intro label
    have hcount := Tally.attemptsOf_countAll session.tally (f.perform call session.state).ticks label
    have hbefore := h.attempts label
    rw [hattempts] at hcount
    simp only [step, hcount, hbefore, List.countP_append, List.flatMap_append]
    by_cases hlabel : label = "success"
    · simp only [hlabel, if_true, List.countP_cons, List.countP_nil]
      omega
    · simp only [hlabel, if_false, List.flatMap_cons, List.flatMap_nil, List.append_nil, Fetcher.failuresIn]
      omega
  · have hcount := Tally.failures_countAll session.tally (f.perform call session.state).ticks
    have hbefore := h.failures
    rw [hfailures] at hcount
    simp only [step, hcount, hbefore, List.countP_append, List.countP_cons, List.countP_nil]
    omega

theorem balanced_run {f : Fetcher σ} {tally : Tally} {session : Session σ} (h : Balanced f tally session)
    (calls : List Call) : Balanced f tally (run f session calls) := by
  induction calls generalizing session with
  | nil => exact h
  | cons call calls ih => exact ih (balanced_step h call)

theorem made_run (f : Fetcher σ) (session : Session σ) (calls : List Call) :
    (run f session calls).made.map (·.call) = session.made.map (·.call) ++ calls := by
  induction calls generalizing session with
  | nil => exact (List.append_nil _).symm
  | cons call calls ih =>
    calc (run f session (call :: calls)).made.map (·.call)
        = (step f session call).made.map (·.call) ++ calls := ih (step f session call)
      _ = session.made.map (·.call) ++ call :: calls := by simp [step]

/-- no counter goes down -/
theorem le_tally_run (f : Fetcher σ) (session : Session σ) (calls : List Call) :
    (∀ label, session.tally.attemptsOf label ≤ (run f session calls).tally.attemptsOf label) ∧
      session.tally.failures ≤ (run f session calls).tally.failures := by
  induction calls generalizing session with
  | nil => exact ⟨fun label => le_rfl, le_rfl⟩
  | cons call calls ih =>
    obtain ⟨hattempts, hfailures⟩ := ih (step f session call)
    refine ⟨fun label => le_trans ?_ (hattempts label), le_trans ?_ hfailures⟩
    · simp only [step, Tally.attemptsOf_countAll]
      exact Nat.le_add_right _ _
    · simp only [step, Tally.failures_countAll]
      exact Nat.le_add_right _ _

/-- **The counters are conserved.** After any calls, from any counters and any state of the transport, the counters are
balanced; a call without candidates leaves them as they are; and from any point of the session to a later one none of them
goes down. -/
theorem run_conserves (f : Fetcher σ) (s : σ) (tally : Tally) (calls : List Call) :
    (run f (start s tally) calls).made.map (·.call) = calls ∧
    Balanced f tally (run f (start s tally) calls) ∧
    (∀ session : Session σ, (step f session (.fetchFrom [])).tally = session.tally) ∧
    ∀ i d : ℕ,
      (∀ label, (run f (start s tally) (calls.take i)).tally.attemptsOf label ≤
        (run f (start s tally) (calls.take (i + d))).tally.attemptsOf label) ∧
      (run f (start s tally) (calls.take i)).tally.failures ≤
        (run f (start s tally) (calls.take (i + d))).tally.failures := by
  refine ⟨made_run f (start s tally) calls, balanced_run (balanced_start f s tally) calls, fun session => rfl, ?_⟩
  intro i d
  have hsplit : run f (start s tally) (calls.take (i + d)) =
      run f (run f (start s tally) (calls.take i)) ((calls.drop i).take d) := by
    rw [List.take_add, run, List.foldl_append]
    rfl
  rw [hsplit]
  exact le_tally_run f _ _

/-- a fetcher among providers that play back -/
def playing : Fetcher Playback := ⟨⟨none, none⟩, Playback.play⟩

/-- two calls with one candidate, which refuses the first one and answers the second one -/
def recovered : Session Playback :=
  run playing (start (Acquisition.recovering Acquisition.sampleAnswer) Tally.zero)
    [.fetchFrom [⟨"http://a"⟩], .fetchFrom [⟨"http://a"⟩]]

theorem run_conserves_recovered :
    recovered.tally.total = 2 ∧ recovered.tally.attemptsOf "success" = 1 ∧ recovered.tally.attemptsOf "transport" = 1 ∧
      recovered.tally.failures = 1 := by
  obtain ⟨-, hbalanced, -⟩ := run_conserves playing (Acquisition.recovering Acquisition.sampleAnswer) Tally.zero
    [.fetchFrom [⟨"http://a"⟩], .fetchFrom [⟨"http://a"⟩]]
  obtain ⟨first, second, hmade, hfirst, hsecond⟩ : ∃ first second : Made Playback, recovered.made = [first, second] ∧
      first = ⟨.fetchFrom [⟨"http://a"⟩], Acquisition.recovering Acquisition.sampleAnswer,
        Acquisition.walkFrom Playback.play [] [⟨"http://a"⟩] (Acquisition.recovering Acquisition.sampleAnswer)⟩ ∧
      second = ⟨.fetchFrom [⟨"http://a"⟩], first.trace.after,
        Acquisition.walkFrom Playback.play [] [⟨"http://a"⟩] first.trace.after⟩ := ⟨_, _, rfl, rfl, rfl⟩
  have hanswer : (Playback.play ⟨"http://a"⟩ first.trace.after).credential = .ok Credential.sample := by
    rw [hfirst]
    exact Acquisition.credential_sampleAnswer
  rw [Acquisition.walkFrom_cons_ok Playback.play [] ⟨"http://a"⟩ [] first.trace.after hanswer] at hsecond
  have hfailed : playing.failuresIn first = [(Fault.transport "connection refused").failureOf ⟨"http://a"⟩] := by
    rw [hfirst]
    rfl
  have hfound : playing.failuresIn second = [] := by
    have hpassed : Acquisition.passed [⟨"http://a"⟩] (Acquisition.attempts Playback.play [⟨"http://a"⟩] first.trace.after) =
        [] := by
      rw [Acquisition.attempts_cons, hanswer]
      rfl
    rw [hsecond]
    exact hpassed
  refine ⟨hbalanced.total.trans ?_, (hbalanced.attempts _).trans ?_, (hbalanced.attempts _).trans ?_,
    hbalanced.failures.trans ?_⟩
  all_goals rw [← recovered, hmade]
  · rw [hsecond, hfirst]
    rfl
  · rw [hsecond, hfirst]
    rfl
  · rw [List.flatMap_cons, List.flatMap_cons, hfailed, hfound]
    rfl
  · rw [hsecond, hfirst]
    rfl

end Session

end CredentialFailover
