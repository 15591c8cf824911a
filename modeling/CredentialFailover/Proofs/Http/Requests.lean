/-
The requests of a client, and a network that keeps them.

The first request of a client is a GET without a body, and one that a redirect leads to keeps the method and the body of the
one before. Every request has the same fields in front, whatever address it asks for; beside them it names at most the one
who asks and the page it comes from. So each one names the agent and accepts JSON, each in one field. What is asked is read
off a network that keeps the requests it takes, and keeping them changes no answer.

Main facts: `isGet_firstRequest`, `isGet_nextRequest`, `ask_recording`.
-/
import CredentialFailover.Http.Client
import CredentialFailover.Proofs.Http.Delivery
import CredentialFailover.Proofs.Http.Header

namespace CredentialFailover.Http

/-! ## Fields of requests -/

/-- a GET without a body that names an agent and accepts JSON, each in one field, as it is received -/
structure Request.IsGet (agent : String) (r : Request) : Prop where
  method : r.method = "GET"
  line : "GET ".toList <+: r.line.toList
  body : r.body = []
  bodiless : r.headers.received.values "content-length" = [] ∧ r.headers.received.values "transfer-encoding" = []
  agent : r.headers.received.values "user-agent" = [trimValue (Utf8.bytes agent)]
  accept : r.headers.received.values "accept" = [Utf8.bytes "application/json"]

theorem Request.line_of_get {r : Request} (h : r.method = "GET") : "GET ".toList <+: r.line.toList := by
  have hget : "GET ".toList = r.method.toList ++ [' '] := by rw [h]; rfl
  rw [hget, Request.line, String.toList_ofList, List.append_assoc, List.append_assoc]
  exact ⟨_, List.append_assoc ..⟩

namespace Client

variable {c : Client} {agent : String} {timeout : Timeout}

theorem userAgent_of_ofSettings (h : ofSettings agent timeout = .ok c) : c.userAgent = Utf8.bytes agent := by
  unfold ofSettings at h
  split at h
  · rename_i value hvalue
    obtain rfl := Except.ok.inj h
    exact (headerValue?_eq_some_iff.1 hvalue).2
  · cases h

theorem ofSettings_of_isSendable (h : IsSendable agent) (timeout : Timeout) :
    ofSettings agent timeout = .ok ⟨Utf8.bytes agent, timeout⟩ := by
  simp only [ofSettings, headerValue?_eq_some_iff.2 ⟨h, rfl⟩]

/-- the fields that only some requests have -/
def others : List String := ["authorization", "referer"]

theorem values_of_others {extra : Headers} (h : ∀ f ∈ extra, f.1 ∈ others) {name : String}
    (hname : ∀ other ∈ others, (other == Ascii.lower name) = false) : extra.received.values name = [] := by
  rw [Headers.values, List.map_eq_nil_iff, List.filter_eq_nil_iff]
  intro f hf
  obtain ⟨g, hg, rfl⟩ := List.mem_map.1 hf
  exact Bool.not_eq_true _ ▸ hname _ (h g hg)

/-- **A GET with the fields in front is one for the agent**, with any of the other fields behind them. -/
theorem isGet_of_fields (hagent : c.userAgent = Utf8.bytes agent) (url : Url) {extra : Headers}
    (h : ∀ f ∈ extra, f.1 ∈ others) : Request.IsGet agent ⟨"GET", url, c.fields url ++ extra, []⟩ := by
  have hsplit : ∀ name, (∀ other ∈ others, (other == Ascii.lower name) = false) →
      (c.fields url ++ extra).received.values name = (c.fields url).received.values name := by
    intro name hname
    rw [Headers.received_append, Headers.values, List.filter_append, List.map_append]
    have hnone := values_of_others h hname
    rw [Headers.values] at hnone
    rw [hnone, List.append_nil, Headers.values]
  have htrim : trimValue (Utf8.bytes "application/json") = Utf8.bytes "application/json" := by decide
  have hlength : Ascii.lower "content-length" = "content-length" := Ascii.lower_of_toList rfl
  have hcoding : Ascii.lower "transfer-encoding" = "transfer-encoding" := Ascii.lower_of_toList rfl
  have huser : Ascii.lower "user-agent" = "user-agent" := Ascii.lower_of_toList rfl
  have haccept : Ascii.lower "accept" = "accept" := Ascii.lower_of_toList rfl
  refine ⟨rfl, Request.line_of_get rfl, rfl, ⟨?_, ?_⟩, ?_, ?_⟩
  · rw [hsplit _ (by rw [hlength]; decide)]
    simp [Headers.values, Headers.received, fields, hlength]
  · rw [hsplit _ (by rw [hcoding]; decide)]
    simp [Headers.values, Headers.received, fields, hcoding]
  · rw [hsplit _ (by rw [huser]; decide)]
    simp [Headers.values, Headers.received, fields, huser, hagent]
  · rw [hsplit _ (by rw [haccept]; decide)]
    simp [Headers.values, Headers.received, fields, haccept, htrim]

theorem isGet_firstRequest (hagent : c.userAgent = Utf8.bytes agent) (s : Start) : (c.firstRequest s).IsGet agent := by
  refine isGet_of_fields hagent s.url fun f hf => ?_
  obtain ⟨v, -, rfl⟩ := List.mem_map.1 hf
  exact List.mem_cons_self ..

theorem isGet_nextRequest {r : Request} (hagent : c.userAgent = Utf8.bytes agent) (s : Start) (hget : r.IsGet agent)
    (next : Url) : (c.nextRequest s r next).IsGet agent := by
  rw [nextRequest, hget.method, hget.body, List.append_assoc]
  refine isGet_of_fields hagent next fun f hf => ?_
  rcases List.mem_append.1 hf with hf | hf
  · split at hf
    · obtain ⟨v, -, rfl⟩ := List.mem_map.1 hf
      exact List.mem_cons_self ..
    · cases hf
  · obtain ⟨v, -, rfl⟩ := List.mem_map.1 hf
    exact List.mem_cons_of_mem _ (List.mem_cons_self ..)

end Client

/-! ## Networks that keep requests -/

/-- a network that keeps the requests it takes -/
def recording {σ : Type} (net : Network σ) : Network (σ × List Request) :=
  fun r st => ((net r st.1).1, (net r st.1).2, st.2 ++ [r])

namespace Client

variable {σ : Type} {c : Client} {net : Network σ}

/-- a redirect to an address that cannot be asked ends the requests -/
theorem ask_succ_of_unusable (net : Network σ) (s : Start) (hops : ℕ) (r : Request) (st : σ) {origin : Url} {f : Failure}
    (h : c.step s r (net r st).1 = .redirected origin (.error f)) :
    c.ask net s (hops + 1) r st = (.error f, (net r st).2) := by
  unfold ask
  rw [h]

/-- **Keeping the requests changes nothing**: what comes of them, and where they leave the network. -/
theorem ask_recording (s : Start) (hops : ℕ) (r : Request) (st : σ) (rs : List Request) :
    (c.ask (recording net) s hops r (st, rs)).1 = (c.ask net s hops r st).1 ∧
      (c.ask (recording net) s hops r (st, rs)).2.1 = (c.ask net s hops r st).2 := by
  induction hops generalizing r st rs with
  | zero =>
    cases hstep : c.step s r (net r st).1 with
    | settled result =>
      rw [ask_of_settled c net s 0 r st hstep, ask_of_settled c (recording net) s 0 r (st, rs) hstep]
      exact ⟨rfl, rfl⟩
    | redirected origin next =>
      rw [ask_zero_of_redirected c net s r st hstep, ask_zero_of_redirected c (recording net) s r (st, rs) hstep]
      exact ⟨rfl, rfl⟩
  | succ hops ih =>
    cases hstep : c.step s r (net r st).1 with
    | settled result =>
      rw [ask_of_settled c net s (hops + 1) r st hstep, ask_of_settled c (recording net) s (hops + 1) r (st, rs) hstep]
      exact ⟨rfl, rfl⟩
    | redirected origin next =>
      cases next with
      | error f =>
        rw [ask_succ_of_unusable net s hops r st hstep, ask_succ_of_unusable (recording net) s hops r (st, rs) hstep]
        exact ⟨rfl, rfl⟩
      | ok q =>
        rw [ask_succ_of_redirected c net s hops r st hstep, ask_succ_of_redirected c (recording net) s hops r (st, rs) hstep]
        exact ih q _ _

end Client

end CredentialFailover.Http
