/-
The log of a call tells what its result says.

What a call shows is made of its requests and an ending. A request shows that its candidate is about to be asked, then what
the transport shows meanwhile, and then a warning if the attempt failed. The ending is the candidate that answered well,
with the number of warnings before it, and its credential; or else one error with the number of candidates and the wording
of the result, which is a headline and the texts of all warnings in their order.

The warnings of a call are those of its own events, so they are taken from the call over the silenced transport.

Main facts: `walkFrom_log` (requests and an ending), `warnings_walkFrom` (the warnings are the failures), `walk_tells`.
-/
import CredentialFailover.Proofs.Acquisition.Entries
import CredentialFailover.Proofs.Acquisition.Secrecy

namespace CredentialFailover

/-- what a log shows of an event: its level, where it comes from, and its fields -/
abbrev Shown := Level × Source × List (String × Json.Value)

namespace Acquisition

variable {σ : Type}

/-! ## What is shown -/

/-- what is shown before a request -/
def asking (e : Endpoint) : Shown :=
  (.info, .acquisition, [("message", .text "trying anisette endpoint"), ("endpoint", .text e.text)])

/-- the text of a warning -/
def warningText (e : Endpoint) (fault : Fault) : String :=
  "anisette endpoint failed [" ++ e.text ++ "]: " ++ fault.message

/-- what is shown of an attempt that failed -/
def warning (e : Endpoint) (fault : Fault) : Shown :=
  (.warn, .acquisition,
    [("message", .text (warningText e fault)), ("endpoint", .text e.text), ("kind", .text fault.kind.label),
      ("error", .text fault.message)])

/-- what is shown of a candidate that answered well, after so many warnings -/
def success (e : Endpoint) (warnings : ℕ) : Shown :=
  (.info, .acquisition,
    [("message", .text "acquired anisette data"), ("endpoint", .text e.text), ("failed_before", .integer warnings)])

/-- what is shown of the credential that came of it -/
def record (c : Credential) : Shown :=
  (.debug, .acquisition, [("message", .text "anisette record"), ("record", .text c.describe)])

/-- what is shown when all of so many candidates failed -/
def giveUp (candidates : ℕ) (message : String) : Shown :=
  (.error, .acquisition, [("message", .text message), ("attempted", .integer candidates)])

/-- what is shown of a request, of what the transport shows meanwhile, and of the attempt if it failed -/
def told (p : Endpoint × Reply σ) : List Shown :=
  asking p.1 :: p.2.log.map Event.shown ++
    match p.2.credential with
    | .ok _ => []
    | .error fault => [warning p.1 fault]

theorem told_of_ok (e : Endpoint) {r : Reply σ} {c : Credential} (h : r.credential = .ok c) :
    told (e, r) = asking e :: r.log.map Event.shown := by
  rw [told, h, List.append_nil]

theorem told_of_error (e : Endpoint) {r : Reply σ} {fault : Fault} (h : r.credential = .error fault) :
    told (e, r) = asking e :: r.log.map Event.shown ++ [warning e fault] := by
  rw [told, h]

/-- the texts of the warnings that a call shows of its own -/
def warnings (transport : Transport σ) (es : List Endpoint) (s : σ) : List String :=
  ((walk transport.silent es s).log.filter fun e => e.level = .warn).map Event.message

/-- what is shown at the end of a call, after warnings with these texts -/
inductive Ending (candidates : ℕ) (warnings : List String) (t : Trace σ) : List Shown → Prop where
  | found {before : List Endpoint} {e : Endpoint} {c : Credential} (hresult : t.result = .ok c)
    (hasked : t.asked = before ++ [e]) (hbefore : before.length = warnings.length) :
    Ending candidates warnings t [success e warnings.length, record c]
  | failed {fault : Fault} (hresult : t.result = .error fault) (hasked : t.asked.length = candidates)
    (hwarnings : warnings.length = candidates)
    (hmessage : fault.message = "\n".intercalate ("all anisette endpoints failed" :: warnings.map fun w => "- " ++ w)) :
    Ending candidates warnings t [giveUp candidates fault.message]

/-! ## Requests and an ending -/

/-- the events of a request and of its answer -/
def eventsOf (p : Endpoint × Reply σ) : List Event :=
  .trying p.1 :: p.2.log ++
    match p.2.credential with
    | .ok _ => []
    | .error fault => [.failed (fault.failureOf p.1)]

theorem shown_eventsOf (p : Endpoint × Reply σ) : (eventsOf p).map Event.shown = told p := by
  unfold eventsOf told
  rw [List.map_append, List.map_cons]
  cases p.2.credential <;> rfl

/-- the last events of a walk that began after some failures -/
inductive LastEvents (failures : List EndpointFailure) (es : List Endpoint) (as : List (Except Fault Credential)) :
    List Event → Prop where
  | found {e : Endpoint} {c : Credential} (hfirst : first? as = some c) (he : es[(passed es as).length]? = some e) :
    LastEvents failures es as [.acquired e (failures.length + (passed es as).length), .obtained c]
  | failed (hfirst : first? as = none) :
    LastEvents failures es as
      [.exhausted (failures ++ passed es as).length (.allEndpointsFailed (failures ++ passed es as))]

/-- one more candidate that failed, in front of a walk, leaves its last events as they are -/
theorem LastEvents.cons {failures : List EndpointFailure} {es : List Endpoint} {as : List (Except Fault Credential)}
    {e : Endpoint} {fault : Fault} {last : List Event} (h : LastEvents (failures ++ [fault.failureOf e]) es as last) :
    LastEvents failures (e :: es) (.error fault :: as) last := by
  cases h with
  | @found e' c hfirst he =>
    have hcount : (failures ++ [fault.failureOf e]).length + (passed es as).length =
        failures.length + (passed (e :: es) (.error fault :: as)).length := by
      simp only [passed, List.length_append, List.length_cons, List.length_nil]
      omega
    rw [hcount]
    exact LastEvents.found hfirst he
  | failed hfirst =>
    have hall : failures ++ [fault.failureOf e] ++ passed es as = failures ++ passed (e :: es) (.error fault :: as) := by
      rw [passed, List.append_assoc]
      rfl
    rw [hall]
    exact LastEvents.failed hfirst

/-- **A walk logs its requests one after the other, and then how it ended.** -/
theorem walkFrom_log (transport : Transport σ) (failures : List EndpointFailure) (es : List Endpoint) (s : σ) :
    ∃ (requests : List (Endpoint × Reply σ)) (last : List Event),
      (walkFrom transport failures es s).log = requests.flatMap eventsOf ++ last ∧
      requests.map Prod.fst = (walkFrom transport failures es s).asked ∧
      requests.map Prod.snd <+: replies transport es s ∧ LastEvents failures es (attempts transport es s) last := by
  induction es generalizing failures s with
  | nil =>
    refine ⟨[], [.exhausted failures.length (.allEndpointsFailed failures)], rfl, rfl, List.nil_prefix, ?_⟩
    have hlast : LastEvents failures [] (attempts transport [] s) _ := LastEvents.failed rfl
    have hnone : failures ++ passed [] (attempts transport [] s) = failures := List.append_nil _
    rwa [hnone] at hlast
  | cons e es ih =>
    cases hattempt : (transport e s).credential with
    | ok c =>
      rw [attempts_cons, hattempt, walkFrom_cons_ok transport failures e es s hattempt]
      refine ⟨[(e, transport e s)], [.acquired e failures.length, .obtained c], ?_, rfl, ?_, LastEvents.found rfl rfl⟩
      · simp only [List.flatMap_cons, List.flatMap_nil, eventsOf, hattempt, List.append_nil]
      · rw [replies]
        exact ⟨_, rfl⟩
    | error fault =>
      obtain ⟨requests, last, hlog, hasked, hreplies, hlast⟩ := ih (failures ++ [fault.failureOf e]) (transport e s).after
      rw [attempts_cons, hattempt, walkFrom_cons_error transport failures e es s hattempt]
      refine ⟨(e, transport e s) :: requests, last, ?_, congrArg (e :: ·) hasked, ?_, hlast.cons⟩
      · simp only [Trace.before, hlog, List.flatMap_cons, eventsOf, hattempt, List.append_assoc]
      · rw [replies]
        exact (List.prefix_cons_inj _).2 hreplies

/-! ## Warnings -/

/-- **The warnings of a walk are the candidates it passed over.** -/
theorem warnings_walkFrom (transport : Transport σ) (failures : List EndpointFailure) (es : List Endpoint) (s : σ) :
    ((walkFrom transport.silent failures es s).log.filter fun e => e.level = .warn) =
      (passed es (attempts transport es s)).map Event.failed := by
  induction es generalizing failures s with
  | nil => rfl
  | cons e es ih =>
    cases hattempt : (transport e s).credential with
    | ok c =>
      rw [attempts_cons, hattempt, walkFrom_cons_ok transport.silent failures e es s hattempt]
      rfl
    | error fault =>
      rw [attempts_cons, hattempt, walkFrom_cons_error transport.silent failures e es s hattempt]
      have hrest := ih (failures ++ [fault.failureOf e]) (transport e s).after
      exact congrArg (Event.failed (fault.failureOf e) :: ·) hrest

theorem warnings_eq (transport : Transport σ) {es : List Endpoint} (hne : es ≠ []) (s : σ) :
    warnings transport es s = (passed es (attempts transport es s)).map EndpointFailure.describe := by
  rw [warnings, walk_of_ne_nil transport.silent hne, warnings_walkFrom, List.map_map]
  rfl

/-! ## The whole call -/

/-- the last events of a call show its result -/
theorem ending_of_lastEvents (transport : Transport σ) {es : List Endpoint} (hne : es ≠ []) {s : σ} {last : List Event}
    (h : LastEvents [] es (attempts transport es s) last) :
    Ending es.length (warnings transport es s) (walk transport es s) (last.map Event.shown) := by
  obtain ⟨hresult, hasked, -⟩ := walkFrom_spec transport [] es s
  rw [← walk_of_ne_nil transport hne] at hresult hasked
  have hlength : (warnings transport es s).length = (passed es (attempts transport es s)).length := by
    rw [warnings_eq transport hne, List.length_map]
  cases h with
  | @found e c hfirst he =>
    have hlt : (passed es (attempts transport es s)).length < es.length := (List.getElem?_eq_some_iff.1 he).1
    have hask : (walk transport es s).asked = es.take (passed es (attempts transport es s)).length ++ [e] := by
      rw [hasked, List.take_add_one, he]
      rfl
    rw [resultOf, hfirst] at hresult
    have hbefore : (es.take (passed es (attempts transport es s)).length).length = (warnings transport es s).length := by
      rw [hlength, List.length_take, Nat.min_eq_left hlt.le]
    rw [List.length_nil, Nat.zero_add, ← hlength]
    exact Ending.found hresult hask hbefore
  | failed hfirst =>
    have hall : (passed es (attempts transport es s)).length = es.length := by
      rcases length_passed (length_attempts transport es s) with ⟨hsome, -⟩ | ⟨-, hall⟩
      · rw [hfirst] at hsome
        cases hsome
      · exact hall
    rw [resultOf, hfirst, List.nil_append] at hresult
    rw [hall, List.take_of_length_le (Nat.le_succ _)] at hasked
    have hmessage : (Fault.allEndpointsFailed (passed es (attempts transport es s))).message =
        "\n".intercalate ("all anisette endpoints failed" :: (warnings transport es s).map fun w => "- " ++ w) := by
      rw [warnings_eq transport hne, List.map_map]
      exact (Fault.intercalate_entries _ _).symm
    rw [List.nil_append, hall]
    exact Ending.failed hresult (congrArg List.length hasked) (hlength.trans hall) hmessage

/-- **The log of a call tells what its result says.** Without candidates nothing is logged. Otherwise each request is shown
in its order, with what the transport shows meanwhile and with a warning if the attempt failed, and then how the call ended:
the candidate that answered well and its credential, or one error whose text is that of the result and lists the warnings. -/
theorem walk_tells (transport : Transport σ) (es : List Endpoint) (s : σ) :
    (es = [] → (walk transport es s).log = []) ∧
      (es ≠ [] → ∃ (requests : List (Endpoint × Reply σ)) (ending : List Shown),
        (walk transport es s).log.map Event.shown = requests.flatMap told ++ ending ∧
        requests.map Prod.fst = (walk transport es s).asked ∧ requests.map Prod.snd <+: replies transport es s ∧
        Ending es.length (warnings transport es s) (walk transport es s) ending) := by
  constructor
  · rintro rfl
    rfl
  · intro hne
    obtain ⟨requests, last, hlog, hasked, hreplies, hlast⟩ := walkFrom_log transport [] es s
    rw [← walk_of_ne_nil transport hne] at hlog hasked
    refine ⟨requests, last.map Event.shown, ?_, hasked, hreplies, ending_of_lastEvents transport hne hlast⟩
    rw [hlog, List.map_append, List.map_flatMap]
    simp only [shown_eventsOf]

/-- a provider that refuses the first request and answers the second well, in front of one that is not asked -/
theorem walk_tells_recovering :
    (walk Playback.play [⟨"http://a"⟩, ⟨"http://a"⟩, ⟨"http://b"⟩] (recovering sampleAnswer)).log.map Event.shown =
      [asking ⟨"http://a"⟩, warning ⟨"http://a"⟩ (.transport "connection refused"), asking ⟨"http://a"⟩,
        success ⟨"http://a"⟩ 1, record Credential.sample] := by
  obtain ⟨after, after', hreplies⟩ := replies_recovering sampleAnswer [⟨"http://b"⟩]
  have hfirst : FirstAt (attempts Playback.play [⟨"http://a"⟩, ⟨"http://a"⟩, ⟨"http://b"⟩] (recovering sampleAnswer))
      1 Credential.sample := by
    rw [attempts, hreplies]
    refine ⟨congrArg some credential_sampleAnswer, ?_⟩
    intro i hi
    obtain rfl : i = 0 := by omega
    exact ⟨_, rfl⟩
  obtain ⟨hasked, hresult, -⟩ := walk_of_firstAt Playback.play hfirst
  obtain ⟨requests, ending, hlog, hnames, hprefix, hending⟩ :=
    (walk_tells Playback.play [⟨"http://a"⟩, ⟨"http://a"⟩, ⟨"http://b"⟩] (recovering sampleAnswer)).2 (by simp)
  have htwice : requests.map Prod.fst = [⟨"http://a"⟩, ⟨"http://a"⟩] := hnames.trans hasked
  rw [hreplies] at hprefix
  obtain ⟨⟨_, first⟩, _, rfl, rfl, honce⟩ := List.map_eq_cons_iff.1 htwice
  obtain ⟨⟨_, second⟩, _, rfl, rfl, hnone⟩ := List.map_eq_cons_iff.1 honce
  obtain rfl := List.map_eq_nil_iff.1 hnone
  simp only [List.map_cons, List.cons_prefix_cons] at hprefix
  obtain ⟨rfl, rfl, -⟩ := hprefix
  have hrefused : Reply.credential ⟨Playback.refusal, [], after⟩ = .error (.transport "connection refused") := rfl
  have hgood : Reply.credential ⟨.ok sampleAnswer, [], after'⟩ = .ok Credential.sample := credential_sampleAnswer
  rw [hlog]
  cases hending with
  | failed hfailed =>
    rw [hresult] at hfailed
    cases hfailed
  | @found before e c hfound hends hcount =>
    rw [hresult] at hfound
    obtain rfl := Except.ok.inj hfound
    have hlast : [⟨"http://a"⟩] ++ [⟨"http://a"⟩] = before ++ [e] := hasked.symm.trans hends
    obtain ⟨rfl, hself⟩ := List.append_inj' hlast rfl
    obtain rfl := List.singleton_inj.1 hself
    rw [← hcount]
    rw [List.flatMap_cons, List.flatMap_cons, List.flatMap_nil, told_of_error _ hrefused, told_of_ok _ hgood]
    rfl

end Acquisition

end CredentialFailover
