/-
A chain of redirects is followed, ten of them at most.

A chain is a network's own: what it answers to a GET of an address, and where that sends, whatever else the request says. A
step along it is a redirect to the next address (`step_of_sendsTo`), and so the requests are the addresses of the chain in
their order, until it ends or there have been ten redirects (`run_of_chain`). The answer at the end is given as it is,
whatever its status; a chain that is longer ends in a failure.

Replies that the client has no room for are outside of this, and so are locations that it cannot hold (`not_followed`).

Main fact: `get_follows`.
-/
import CredentialFailover.Proofs.Http.Length
import CredentialFailover.Proofs.Http.Locations
import CredentialFailover.Proofs.Http.Requests

namespace CredentialFailover.Http

/-! ## Chains -/

/-- a message that sends to an address: a redirecting status, and the address in full as its first location -/
structure Message.SendsTo (m : Message) (next : Url) : Prop where
  status : m.status ∈ [301, 302, 303, 307, 308]
  location : ∃ text, (m.values "location").head? = some (Utf8.bytes text) ∧ IsFull text ∧ Url.parse text = some next

/-- a message that a chain ends with: a status that has a body and does not redirect, and no location -/
structure Message.Ends (m : Message) : Prop where
  least : 200 ≤ m.status
  most : m.status ≤ 599
  body : m.status ≠ 204 ∧ m.status ≠ 304
  settled : m.status ∉ [301, 302, 303, 307, 308]
  location : m.values "location" = []

/-- a message as it is sent, with its body, and with what is beside the data if the body comes in chunks -/
structure Parcel where
  message : Message
  wire : List UInt8
  body : List UInt8
  extras : Chunks.Extras

/-- a parcel that is delivered in full -/
def Parcel.Arrives (p : Parcel) (d : Delivery) : Prop :=
  ∃ staysOpen, d = .octets p.wire staysOpen ∧ p.message.Spelling p.wire ∧ p.message.Delivered staysOpen p.extras p.body

theorem Parcel.Arrives.spelling {p : Parcel} {d : Delivery} (h : p.Arrives d) : p.message.Spelling p.wire := by
  obtain ⟨-, -, hspelling, -⟩ := h
  exact hspelling

/-- a parcel whose head there is room for, with a body that can be declared -/
structure Parcel.Fits (p : Parcel) : Prop where
  head : p.message.HasRoom p.wire
  body : p.body.length ≤ 18446744073709551613

/-- a network that sends every GET for an agent along a chain of hops, up to a last parcel; a hop is what is delivered, and
the address it sends to -/
inductive Chain {σ : Type} (net : Network σ) (agent : String) (last : Parcel) : Url → List (Parcel × Url) → σ → Prop where
  | last {url : Url} {st : σ} (hends : last.message.Ends)
    (harrives : ∀ r : Request, r.url = url → r.IsGet agent → last.Arrives (net r st).1) : Chain net agent last url [] st
  | hop {url next : Url} {st : σ} {p : Parcel} {hops : List (Parcel × Url)} (hsends : p.message.SendsTo next)
    (harrives : ∀ r : Request, r.url = url → r.IsGet agent → p.Arrives (net r st).1)
    (hrest : ∀ r : Request, r.url = url → r.IsGet agent → Chain net agent last next.whole hops (net r st).2) :
    Chain net agent last url ((p, next) :: hops) st

/-- what comes of a chain: its addresses are asked in their order, and ten redirects are followed -/
structure Followed (agent : String) (last : Parcel) (url : Url) (hops : List (Parcel × Url)) (asked : List Request)
    (result : Except Fault Response) : Prop where
  count : asked.length = min hops.length 10 + 1
  order : asked.map Request.url = (url :: hops.map fun h => h.2.whole).take 11
  gets : ∀ r ∈ asked, r.IsGet agent
  answered : hops.length ≤ 10 →
    ∃ type, result = .ok ⟨last.message.status, type, last.body⟩ ∧ last.message.ShownType type
  refused : 10 < hops.length → ∃ why, result = .error (.transport why)

/-! ## Steps -/

theorem Message.SendsTo.isBodiless {m : Message} {next : Url} (h : m.SendsTo next) :
    Framing.isBodiless m.status = false := by
  have hall : ∀ n ∈ [301, 302, 303, 307, 308], Framing.isBodiless n = false := by decide
  exact hall _ h.status

theorem Message.Ends.isBodiless {m : Message} (h : m.Ends) : Framing.isBodiless m.status = false :=
  isBodiless_eq_false h.least h.body

namespace Client

variable {σ : Type} {c : Client} {agent : String} {net : Network σ} {s : Start} {st : σ} {r : Request} {d : Delivery}
variable {p last : Parcel} {url next : Url} {hops : List (Parcel × Url)}

/-- a parcel arrives, and its body is read if there is room for what is beside the data -/
theorem exists_arrival (c : Client) (name : String) (hleast : 200 ≤ p.message.status) (hmost : p.message.status ≤ 599)
    (hbody : Framing.isBodiless p.message.status = false) (hfits : p.Fits) (h : p.Arrives d) :
    ∃ a, c.arrive name d = .ok a ∧ a.head = p.message.head ∧
      (p.extras.Fit → a.framing.read a.staysOpen a.octets = .full p.body) := by
  obtain ⟨staysOpen, rfl, hspelling, hdelivered⟩ := h
  obtain ⟨framing, hframing, hread⟩ := Message.read_of_delivered hbody hdelivered hfits.body
  have harrive := Message.arrive_of_spelling c name staysOpen hspelling hleast (hmost.trans (by decide)) hfits.head hframing
  exact ⟨_, harrive, rfl, hread⟩

/-- where a message sends is where it leads -/
theorem leadOf?_of_sendsTo (url : Url) {m : Message} (h : m.SendsTo next) (hlink : Link.isLink next = true) :
    leadOf? url m.head = some next.whole := by
  obtain ⟨text, hlocation, hfull, hparse⟩ := h.location
  have hfirst : m.head.headers.first? "location" = some (Utf8.bytes text) := hlocation
  have hredirects : redirects m.head.status = true := List.contains_iff_mem.2 h.status
  rw [leadOf?, if_pos hredirects, hfirst, Option.bind_some, Utf8.decode?_bytes, Option.bind_some,
    Url.lead?_of_isFull url hfull hparse hlink]

/-- **A step along a chain**: the next request goes where the message sends. -/
theorem step_of_sendsTo (hsends : p.message.SendsTo next) (hlink : Link.isLink next = true) (hfits : p.Fits)
    (h : p.Arrives d) : c.step s r d = .redirected r.url (.ok (c.nextRequest s r next.whole)) := by
  have hrange : ∀ n ∈ [301, 302, 303, 307, 308], 200 ≤ n ∧ n ≤ 599 := by decide
  obtain ⟨hleast, hmost⟩ := hrange _ hsends.status
  obtain ⟨a, harrive, hhead, -⟩ := exists_arrival c s.name hleast hmost hsends.isBodiless hfits h
  have hlead : leadOf? r.url a.head = some next.whole := hhead ▸ leadOf?_of_sendsTo r.url hsends hlink
  have hhttp : next.whole.isHttp = true := by
    obtain ⟨text, -, hfull, hparse⟩ := hsends.location
    have hscheme : next.scheme = .http := Url.scheme_of_isFull hfull hparse
    simp [Url.isHttp, Url.whole, hscheme]
  simp only [step, harrive, hlead, hhttp, if_true]

/-- the end of a chain is accepted, and its body is read -/
theorem step_of_ends (hends : last.message.Ends) (hfits : last.Fits) (hextras : last.extras.Fit) (h : last.Arrives d) :
    ∃ a, c.step s r d = .settled (.ok a) ∧
      c.readBody a = .ok ⟨last.message.status, contentType last.message.head, last.body⟩ := by
  obtain ⟨a, harrive, hhead, hread⟩ := exists_arrival c s.name hends.least hends.most hends.isBodiless hfits h
  have hlead : leadOf? r.url a.head = none := by
    rw [hhead]
    exact Message.leadOf?_of_nowhere r.url hends.location
  have hbody : c.readBody ⟨r.url, a⟩ = .ok ⟨a.head.status, contentType a.head, last.body⟩ :=
    readBody_of_full c (hread hextras)
  rw [hhead] at hbody
  exact ⟨_, step_of_no_lead c s r harrive hlead, hbody⟩

/-! ## Runs -/

/-- what comes of a run along a chain, of which so many hops are followed -/
structure Run (c : Client) (agent : String) (last : Parcel) (url : Url) (hops : List (Parcel × Url)) (limit : ℕ)
    (asked : List Request) (result : Except Failure Accepted) : Prop where
  order : asked.map Request.url = (url :: hops.map fun h => h.2.whole).take (limit + 1)
  gets : ∀ r ∈ asked, r.IsGet agent
  answered : hops.length ≤ limit →
    ∃ a, result = .ok a ∧ c.readBody a = .ok ⟨last.message.status, contentType last.message.head, last.body⟩
  refused : limit < hops.length → ∃ f, result = .error f

/-- **A run along a chain** asks its addresses in their order, up to the limit, and only for GETs. By induction on the chain,
for any limit: a hop uses one of it up. -/
theorem run_of_chain (hagent : c.userAgent = Utf8.bytes agent) (hlast : last.Fits) (hextras : last.extras.Fit)
    (hchain : Chain net agent last url hops st) (hhops : ∀ h ∈ hops, h.1.Fits ∧ Link.isLink h.2 = true) (limit : ℕ)
    (hurl : r.url = url) (hget : r.IsGet agent) (before : List Request) :
    ∃ asked, (c.ask (recording net) s limit r (st, before)).2.2 = before ++ asked ∧
      Run c agent last url hops limit asked (c.ask (recording net) s limit r (st, before)).1 := by
  induction hchain generalizing limit r before with
  | @last url st hends harrives =>
    obtain ⟨a, hstep, hbody⟩ := step_of_ends (c := c) (s := s) (r := r) hends hlast hextras (harrives r hurl hget)
    rw [ask_of_settled c (recording net) s limit r (st, before) hstep]
    exact ⟨[r], rfl, by simp [hurl], List.forall_mem_singleton.2 hget, fun _ => ⟨a, rfl, hbody⟩, nofun⟩
  | @hop url next st p hops hsends harrives hrest ih =>
    obtain ⟨hfits, hlink⟩ := hhops _ (List.mem_cons_self ..)
    have hstep := step_of_sendsTo (c := c) (s := s) (r := r) hsends hlink hfits (harrives r hurl hget)
    cases limit with
    | zero =>
      rw [ask_zero_of_redirected c (recording net) s r (st, before) hstep]
      exact ⟨[r], rfl, by simp [hurl], List.forall_mem_singleton.2 hget, nofun, fun _ => ⟨_, rfl⟩⟩
    | succ limit =>
      have hnext := isGet_nextRequest hagent s hget next.whole
      obtain ⟨asked, hasked, hrun⟩ := ih r hurl hget (fun h hh => hhops h (List.mem_cons_of_mem _ hh)) limit rfl hnext
        (before ++ [r])
      rw [ask_succ_of_redirected c (recording net) s limit r (st, before) hstep]
      refine ⟨r :: asked, by rw [List.append_cons]; exact hasked, ?_, List.forall_mem_cons.2 ⟨hget, hrun.gets⟩, ?_, ?_⟩
      · simp [hurl, hrun.order]
      · exact fun h => hrun.answered (Nat.le_of_succ_le_succ h)
      · exact fun h => hrun.refused (Nat.lt_of_succ_lt_succ h)

/-- **A chain of redirects is followed, ten of them at most.** Whatever agent a client is given, it asks the addresses of the
chain in their order, every time with a GET without a body that names the agent and accepts JSON, each in one field. A chain
of ten hops or fewer gives its last status and body; a longer one fails. The head and the body of every reply have to fit,
and what is beside the data of the last one, and the addresses have to be links. -/
theorem get_follows {timeout : Timeout} {endpoint : Endpoint} (hclient : ofSettings agent timeout = .ok c)
    (hstart : start endpoint.text = .ok s) (hchain : Chain net agent last s.url hops st)
    (hhops : ∀ h ∈ hops, h.1.Fits ∧ Link.isLink h.2 = true) (hlast : last.Fits) (hextras : last.extras.Fit) :
    Followed agent last s.url hops (c.get (recording net) endpoint (st, [])).after.2 (c.get net endpoint st).result := by
  have hagent := userAgent_of_ofSettings hclient
  obtain ⟨asked, hasked, hrun⟩ := run_of_chain hagent hlast hextras hchain hhops maxHops (r := c.firstRequest s) rfl
    (isGet_firstRequest hagent s) []
  rw [(ask_recording s maxHops (c.firstRequest s) st []).1] at hrun
  rw [get_after c hstart, hasked, get_result c hstart, List.nil_append]
  refine ⟨?_, hrun.order, hrun.gets, ?_, ?_⟩
  · have hlength := congrArg List.length hrun.order
    simp only [List.length_map, List.length_take, List.length_cons, maxHops] at hlength
    omega
  · intro h
    obtain ⟨a, ha, hbody⟩ := hrun.answered h
    refine ⟨contentType last.message.head, ?_, Message.shownType_contentType _⟩
    rw [ha]
    exact congrArg (Except.mapError Failure.fault) hbody
  · intro h
    obtain ⟨f, hf⟩ := hrun.refused h
    exact ⟨f.reason, by rw [hf]; rfl⟩

/-! ## One redirect -/

/-- an answer that sends to a location -/
def moved (location : String) : Answer :=
  ⟨302, "", [("location", Utf8.bytes location), ("content-length", Utf8.bytes "0")], []⟩

/-- an answer at the end of a chain -/
def settled : Answer := ⟨503, "", [("content-length", Utf8.bytes "2")], Utf8.bytes "ok"⟩

/-- a network that sends on from home to a location, and ends there -/
def relay (location : String) : Network Unit :=
  fun r _ => (.octets (if r.url = home then moved location else settled).wire false, ())

/-- an answer with its body, which is not in chunks -/
def plain (a : Answer) : Parcel := ⟨.ofAnswer a, a.wire, a.octets, .none⟩

/-- an answer of the length that it declares is delivered in full -/
theorem arrives_of_length {a : Answer} (hreason : a.reason = "") (h : ∀ f ∈ a.headers, Stays f)
    (hcodings : (a.headers.filter (·.1 == "transfer-encoding")).map (·.2) = [])
    (hlength : (a.headers.filter (·.1 == "content-length")).map (·.2) = [Utf8.bytes (toString a.octets.length)]) :
    (plain a).Arrives (.octets a.wire false) := by
  have hdeclares : (Message.ofAnswer a).Declares a.octets.length :=
    Message.declares_toString ((values_of_stays h rfl).trans hlength)
  have hdelivered : (Message.ofAnswer a).Delivered false .none ((Message.ofAnswer a).octets.take a.octets.length) :=
    .declared ((values_of_stays h rfl).trans hcodings) hdeclares le_rfl
  rw [show (Message.ofAnswer a).octets.take a.octets.length = a.octets from List.take_length] at hdelivered
  exact ⟨false, rfl, spelling_of_stays hreason h, hdelivered⟩

/-- a message that announces a length can be the last one of a chain, unless its status redirects -/
theorem ends_of_announces {m : Message} {n : ℕ} (h : m.Announces n) (hsettled : m.status ∉ [301, 302, 303, 307, 308]) :
    m.Ends := ⟨h.least, h.most, h.body, hsettled, h.location⟩

theorem stays_settled : ∀ f ∈ settled.headers, Stays f := by decide

theorem arrives_settled : (plain settled).Arrives (.octets settled.wire false) :=
  arrives_of_length rfl stays_settled (by decide) (by decide)

theorem ends_settled : (plain settled).message.Ends := by
  have hannounces : (Message.ofAnswer settled).Announces 2 :=
    announces_of_stays stays_settled (by decide) (by decide) (by decide)
  exact ends_of_announces hannounces (by decide)

section Moved

variable {location : String} (h : IsSolid (Utf8.bytes location))

include h

theorem stays_moved : ∀ f ∈ (moved location).headers, Stays f := by
  have hlength : Stays ("content-length", Utf8.bytes "0") := by decide
  exact List.forall_mem_cons.2 ⟨⟨show Fields.isName "location" = true by decide,
    show "location".toList.map Char.toLower = "location".toList by decide, h⟩, List.forall_mem_singleton.2 hlength⟩

theorem arrives_moved : (plain (moved location)).Arrives (.octets (moved location).wire false) := by
  have hdigits : toString (0 : ℕ) = "0" := by decide
  refine arrives_of_length rfl (stays_moved h) ?_ ?_
  · simp [moved]
  · rw [show (moved location).octets.length = 0 from rfl, hdigits]
    simp [moved]

theorem location_moved : (Message.ofAnswer (moved location)).values "location" = [Utf8.bytes location] := by
  refine (values_of_stays (stays_moved h) rfl).trans ?_
  simp [moved, Message.ofAnswer]

theorem sendsTo_moved (hfull : IsFull location) (hparse : Url.parse location = some next) :
    (plain (moved location)).message.SendsTo next := by
  have hstatus : 302 ∈ [301, 302, 303, 307, 308] := by decide
  exact ⟨hstatus, location, congrArg List.head? (location_moved h), hfull, hparse⟩

/-- **A network that sends on once is a chain**, wherever it sends to but home. -/
theorem chain_relay (agent : String) (hfull : IsFull location) (hparse : Url.parse location = some next)
    (hnext : next.whole ≠ home) :
    Chain (relay location) agent (plain settled) home [(plain (moved location), next)] () := by
  refine .hop (sendsTo_moved h hfull hparse) ?_ fun r hr _ => .last ends_settled ?_
  · rintro r hr -
    rw [relay, if_pos hr]
    exact arrives_moved h
  · rintro r hr -
    rw [relay, if_neg (hr ▸ hnext)]
    exact arrives_settled

end Moved

theorem isSolid_queried (n : ℕ) : IsSolid (Utf8.bytes (Url.queried n)) := by
  have hall : ∀ d ∈ ['h', 't', 't', 'p', ':', '/', '/', 'b', '/', '?', 'a'], IsSolid (String.utf8EncodeChar d) := by
    simp only [List.forall_mem_cons, List.not_mem_nil, false_imp_iff, implies_true, and_true]
    decide
  intro b hb
  obtain ⟨c, hc, hb⟩ := List.mem_flatMap.1 hb
  exact hall c (Url.mem_queried hc) b hb

theorem whole_queriedUrl_ne (n : ℕ) : (Url.queriedUrl n).whole ≠ home := by
  intro h
  cases congrArg Url.query h

theorem fits_moved {location : String} (h : (Utf8.bytes location).length ≤ 65544) : (plain (moved location)).Fits := by
  have hline : (Head.version ++ Utf8.bytes (" " ++ toString 302 ++ " " ++ "") ++ Fields.lineEnd).length = 15 := by decide
  have hnames : (Utf8.bytes "location").length = 8 ∧ (Utf8.bytes "content-length").length = 14 ∧
      (Utf8.bytes "0").length = 1 := by decide
  have hwire : (moved location).wire.length ≤ 417792 := by
    have hhead : (Head.version ++ Utf8.bytes (" " ++ toString (moved location).status ++ " " ++ (moved location).reason) ++
        Fields.lineEnd).length = 15 := hline
    have hheaders : (moved location).headers = [("location", Utf8.bytes location), ("content-length", Utf8.bytes "0")] := rfl
    have hnone : (moved location).octets.length = 0 := rfl
    rw [length_wire, hhead, length_write, hheaders, hnone]
    simp only [List.map_cons, List.map_nil, List.sum_cons, List.sum_nil, hnames.1, hnames.2.1, hnames.2.2]
    omega
  have hshort : ∀ f ∈ (moved location).headers, f.1.length ≤ 65535 :=
    List.forall_mem_cons.2 ⟨show "location".length ≤ 65535 by decide,
      List.forall_mem_singleton.2 (show "content-length".length ≤ 65535 by decide)⟩
  exact ⟨⟨show 2 ≤ 100 by decide, hshort, hwire.trans (Nat.le_add_left ..)⟩, Nat.zero_le _⟩

theorem length_queried (n : ℕ) : (Utf8.bytes (Url.queried n)).length = n + 10 := by
  have hall : ∀ d ∈ ['h', 't', 't', 'p', ':', '/', '/', 'b', '/', '?', 'a'], d.toNat < 0x80 := by simp
  rw [Utf8.bytes, Utf8.encode_of_ascii fun c hc => hall c (Url.mem_queried hc), List.length_map, Url.queried,
    String.toList_ofList]
  simp

/-- **One redirect**, for an agent with blanks around it: two requests, and an error as it is. -/
theorem get_follows_relay :
    Followed "\tXcode " (plain settled) home [(plain (moved (Url.queried 1)), Url.queriedUrl 1)]
      ((⟨Utf8.bytes "\tXcode ", ⟨10, 0⟩⟩ : Client).get (recording (relay (Url.queried 1))) ⟨"http://a"⟩ ((), [])).after.2
      ((⟨Utf8.bytes "\tXcode ", ⟨10, 0⟩⟩ : Client).get (relay (Url.queried 1)) ⟨"http://a"⟩ ()).result := by
  obtain ⟨s, hstart, hurl⟩ := exists_start
  have hclient : ofSettings "\tXcode " ⟨10, 0⟩ = .ok ⟨Utf8.bytes "\tXcode ", ⟨10, 0⟩⟩ :=
    ofSettings_of_isSendable (by decide) _
  have hchain := chain_relay (isSolid_queried 1) "\tXcode " (Url.isFull_queried 1) (Url.parse_queried 1)
    (whole_queriedUrl_ne 1)
  have hlink : Link.isLink (Url.queriedUrl 1) = true := by decide +kernel
  have hmoved : (plain (moved (Url.queried 1))).Fits := fits_moved ((length_queried 1).trans_le (by decide))
  have hsettled : (plain settled).Fits := ⟨⟨by decide, by decide, by decide⟩, by decide⟩
  rw [← hurl] at hchain ⊢
  exact get_follows hclient hstart hchain (List.forall_mem_singleton.2 ⟨hmoved, hlink⟩) hsettled
    ⟨by decide, by decide, by decide⟩

/-! ## What is outside -/

/-- a chain from home that is not followed as the ones that fit -/
def Strays (net : Network Unit) (a : Answer) (hops : List (Parcel × Url)) : Prop :=
  ∃ body extras, Chain net "Xcode" ⟨.ofAnswer a, a.wire, body, extras⟩ home hops () ∧
    ¬ Followed "Xcode" ⟨.ofAnswer a, a.wire, body, extras⟩ home hops
      (default.get (recording net) ⟨"http://a"⟩ ((), [])).after.2 (default.get net ⟨"http://a"⟩ ()).result

/-- an answer that no result comes of -/
theorem strays_of_error {a : Answer} {body : List UInt8} {extras : Chunks.Extras} (hends : (Message.ofAnswer a).Ends)
    (harrives : (⟨.ofAnswer a, a.wire, body, extras⟩ : Parcel).Arrives (.octets a.wire false))
    (hresult : ∃ f, (default.get (always a) ⟨"http://a"⟩ ()).result = .error f) : Strays (always a) a [] := by
  refine ⟨body, extras, .last hends fun _ _ _ => harrives, fun h => ?_⟩
  obtain ⟨type, hok, -⟩ := h.answered (Nat.zero_le _)
  obtain ⟨f, hf⟩ := hresult
  rw [hf] at hok
  cases hok

/-- an answer that there is no room for -/
theorem strays_of_no_room {a : Answer} (hends : (Message.ofAnswer a).Ends)
    (harrives : (plain a).Arrives (.octets a.wire false)) (hroom : ¬ (Message.ofAnswer a).HasRoom a.wire) :
    Strays (always a) a [] := by
  obtain ⟨s, hstart, -⟩ := exists_start
  have hspelling : (Message.ofAnswer a).Spelling a.wire := harrives.spelling
  have hleast : 100 ≤ (Message.ofAnswer a).status := Nat.le_trans (by decide) hends.least
  have hmost : (Message.ofAnswer a).status ≤ 999 := hends.most.trans (by decide)
  have harrive : default.arrive s.name (always a (default.firstRequest s) ()).1 = _ :=
    Message.arrive_of_no_room default s.name false hspelling hleast hmost hroom
  exact strays_of_error hends harrives ⟨_, get_of_unarrived hstart harrive⟩

theorem strays_crowded : Strays (always crowded) crowded [] :=
  strays_of_no_room (ends_of_announces announces_crowded (by decide))
    (arrives_of_length rfl stays_crowded (by decide) (by decide)) not_hasRoom_crowded

theorem strays_withField {f : String × List UInt8} (h : Stays f) (hother : f.1 ∉ framingNames)
    (hroom : ¬ (Message.ofAnswer (withField f)).HasRoom (withField f).wire) :
    Strays (always (withField f)) (withField f) [] := by
  have hsettled : 200 ∉ [301, 302, 303, 307, 308] := by decide
  have harrives : (plain (withField f)).Arrives (.octets (withField f).wire false) := by
    refine arrives_of_length rfl (stays_withField h) ?_ ?_
    · rw [filter_withField hother (by decide)]
      decide
    · rw [filter_withField hother (by decide), show (withField f).octets.length = 2 from rfl]
      decide
  exact strays_of_no_room (ends_of_announces (announces_withField h hother) hsettled) harrives hroom

/-- an answer that is longer than any body can be -/
def vast : Answer :=
  ⟨200, "", [("content-length", Utf8.bytes "18446744073709551614")], List.replicate 18446744073709551614 0⟩

theorem strays_vast : Strays (always vast) vast [] := by
  obtain ⟨s, hstart, -⟩ := exists_start
  have hstays : ∀ f ∈ vast.headers, Stays f := by decide
  have hcodings : (vast.headers.filter (·.1 == "transfer-encoding")).map (·.2) = [] := by decide
  have hvalues : (vast.headers.filter (·.1 == "content-length")).map (·.2) =
      [Utf8.bytes (toString 18446744073709551614)] := by decide
  have hannounces : (Message.ofAnswer vast).Announces 18446744073709551614 :=
    announces_of_stays hstays (by decide) (by decide) hvalues
  have hlength : vast.octets.length = 18446744073709551614 := List.length_replicate
  have harrives := arrives_of_length rfl hstays hcodings (hlength.symm ▸ hvalues)
  have hroom : (Message.ofAnswer vast).HasRoom vast.wire := hasRoom_of_head _ ⟨by decide, by decide, by decide⟩
  have hframing := Message.ofHead?_of_overlong hannounces.isBodiless ((values_of_stays hstays rfl).trans hcodings)
    hannounces.length (by decide)
  have hmost : (Message.ofAnswer vast).status ≤ 999 := hannounces.most.trans (by decide)
  have harrive : default.arrive s.name (always vast (default.firstRequest s) ()).1 = _ :=
    Message.arrive_of_unframed default s.name false harrives.spelling hannounces.least hmost hroom hframing
  exact strays_of_error (ends_of_announces hannounces (by decide)) harrives ⟨_, get_of_unarrived hstart harrive⟩

/-! ### Chunks -/

/-- an answer in chunks -/
def inChunks (chunks : List UInt8) : Answer := ⟨200, "", [("transfer-encoding", Utf8.bytes "chunked")], chunks⟩

/-- chunks that cannot be read -/
theorem strays_inChunks {x : Chunks.Extras} {body chunks : List UInt8} (h : Chunks.Spelling x body chunks)
    (hbroken : Chunks.read false chunks = .broken) : Strays (always (inChunks chunks)) (inChunks chunks) [] := by
  obtain ⟨s, hstart, -⟩ := exists_start
  have hstays : ∀ f ∈ (inChunks chunks).headers, Stays f := List.forall_mem_singleton.2 (by decide)
  have hlocation : (Message.ofAnswer (inChunks chunks)).values "location" = [] :=
    (values_of_stays hstays rfl).trans (by simp [inChunks, Message.ofAnswer])
  have hvalues : (Message.ofAnswer (inChunks chunks)).values "transfer-encoding" = [Utf8.bytes "chunked"] :=
    (values_of_stays hstays rfl).trans (by simp [inChunks, Message.ofAnswer])
  have hcodings : Framing.endsInChunks [Utf8.bytes "chunked"] = true := by decide
  have hends : (Message.ofAnswer (inChunks chunks)).Ends :=
    ⟨show 200 ≤ 200 by decide, show 200 ≤ 599 by decide, show 200 ≠ 204 ∧ 200 ≠ 304 by decide,
      show 200 ∉ [301, 302, 303, 307, 308] by decide, hlocation⟩
  have hframing : Framing.ofHead? (Message.ofAnswer (inChunks chunks)).head = some .chunks := by
    have hsome : [Utf8.bytes "chunked"] ≠ [] := by decide
    rw [Message.ofHead?_head hends.isBodiless, hvalues, if_pos hsome, if_pos hcodings]
  have hspelling := spelling_of_stays (a := inChunks chunks) rfl hstays
  have hroom : (Message.ofAnswer (inChunks chunks)).HasRoom (inChunks chunks).wire :=
    hasRoom_of_head chunks ⟨by decide, by decide, by decide⟩
  have harrives : (⟨.ofAnswer (inChunks chunks), (inChunks chunks).wire, body, x⟩ : Parcel).Arrives
      (.octets (inChunks chunks).wire false) :=
    ⟨false, rfl, hspelling, .chunked (hvalues ▸ hcodings) h (List.append_nil _).symm⟩
  have harrive : default.arrive s.name (always (inChunks chunks) (default.firstRequest s) ()).1 =
      .ok ⟨(Message.ofAnswer (inChunks chunks)).head, .chunks, chunks, false⟩ :=
    Message.arrive_of_spelling default s.name false hspelling hends.least (hends.most.trans (by decide)) hroom hframing
  have hbody : ∀ url head, default.readBody ⟨url, head, .chunks, chunks, false⟩ = .error (.brokenBody url.text) := by
    intro url head
    have hread : Framing.chunks.read false chunks = .broken := hbroken
    simp only [readBody, hread]
  refine strays_of_error hends harrives ⟨(Failure.brokenBody s.url.text).fault, ?_⟩
  rw [get_result default hstart, ask_of_arrival maxHops harrive (Message.leadOf?_of_nowhere _ hends.location)]
  exact congrArg (Except.mapError Failure.fault) (hbody _ _)

theorem strays_padded : Strays (always (inChunks (Chunks.padded 16384))) (inChunks (Chunks.padded 16384)) [] :=
  strays_inChunks (Chunks.spelling_padded 16384) (Chunks.read_padded (by decide))

/-- fields at the end, more than there is room for -/
def crowd : Headers := List.replicate 101 ("x", [])

theorem strays_crowd : Strays (always (inChunks (Chunks.trailed crowd))) (inChunks (Chunks.trailed crowd)) [] := by
  have hx : Stays ("x", []) := by decide
  have hsent : ∀ f ∈ crowd, Fields.canBeSent f = true := fun f hf => List.eq_of_mem_replicate hf ▸ hx.canBeSent
  have hlength : (crowd.flatMap Fields.writeOne).length = 101 * 5 := by
    have hone : (Fields.writeOne ("x", [])).length = 5 := by decide
    simp [crowd, hone]
  have hbroken : Chunks.read false (Chunks.trailed crowd) = .broken :=
    Chunks.read_trailed_of_crowded hsent (by decide) (hlength.trans_lt (by decide))
  exact strays_inChunks (Chunks.spelling_trailed hsent) hbroken

/-- a field at the end, longer than there is room for -/
def drawnOut : Headers := [longValue 16384]

theorem strays_drawnOut : Strays (always (inChunks (Chunks.trailed drawnOut))) (inChunks (Chunks.trailed drawnOut)) [] := by
  have hsent : ∀ f ∈ drawnOut, Fields.canBeSent f = true := List.forall_mem_singleton.2 (stays_longValue 16384).canBeSent
  refine strays_inChunks (Chunks.spelling_trailed hsent) (Chunks.read_trailed_of_long ?_ ?_)
  · intro b hb
    rw [List.eq_of_mem_replicate hb]
    decide
  · rw [List.length_replicate]
    decide

/-! ### Locations -/

/-- a location that leads nowhere is not asked -/
theorem strays_relay {location : String} (h : IsSolid (Utf8.bytes location)) (hfull : IsFull location)
    (hparse : Url.parse location = some next) (hnext : next.whole ≠ home) (hlength : (Utf8.bytes location).length ≤ 65544)
    (hlead : home.lead? location = none) : Strays (relay location) settled [(plain (moved location), next)] := by
  obtain ⟨s, hstart, hurl⟩ := exists_start
  refine ⟨settled.octets, .none, chain_relay h "Xcode" hfull hparse hnext, fun hfollowed => ?_⟩
  obtain ⟨a, harrive, hhead, -⟩ := exists_arrival default s.name (show 200 ≤ 302 by decide) (show 302 ≤ 599 by decide)
    (show Framing.isBodiless 302 = false by decide) (fits_moved hlength) (arrives_moved h)
  have hhome : (default.firstRequest s).url = home := hurl
  have hnowhere : leadOf? (default.firstRequest s).url a.head = none := by
    have hfirst : a.head.headers.first? "location" = some (Utf8.bytes location) := by
      rw [hhead]
      exact congrArg List.head? (location_moved h)
    rw [leadOf?, hfirst, Option.bind_some, Utf8.decode?_bytes, Option.bind_some, hhome, hlead, ite_self]
  have hdelivered : (recording (relay location) (default.firstRequest s) ((), [])).1 =
      .octets (moved location).wire false := by
    simp only [recording, relay, hhome, if_true]
  have hstep := step_of_no_lead default s (default.firstRequest s) (hdelivered ▸ harrive) hnowhere
  have hcount := hfollowed.count
  rw [get_after default hstart, ask_of_settled default (recording (relay location)) s maxHops _ _ hstep] at hcount
  exact absurd (show 1 = 2 from hcount) (by decide)

theorem strays_endless : Strays (relay (Url.queried 65534)) settled
    [(plain (moved (Url.queried 65534)), Url.queriedUrl 65534)] :=
  strays_relay (isSolid_queried _) (Url.isFull_queried _) (Url.parse_queried _) (whole_queriedUrl_ne _) (length_queried _).le
    (Url.lead?_of_endless home (by decide))

/-- an address whose host has a mark that may not stand in an authority -/
def marked : Url := ⟨.http, some ⟨[], none, .name ['b', '"'], none⟩, .segments [[]], none, none⟩

theorem strays_marked : Strays (relay "http://b\"/") settled [(plain (moved "http://b\"/"), marked)] := by
  have hsolid : IsSolid (Utf8.bytes "http://b\"/") := by decide
  have hparse : Url.parse "http://b\"/" = some marked := by decide +kernel
  exact strays_relay hsolid ⟨['h', 't', 't', 'p'], ['b', '"', '/'], by decide, Url.lower_http⟩ hparse (by decide)
    (by decide) (by decide +kernel)

/-- **Outside of this** a chain is not followed: a reply with a head that there is no room for, or with too long a body, is
refused, and so is a last one with too much beside its data; a location that is too long, or has a mark in its host, leads
nowhere. -/
theorem not_followed :
    ofSettings "Xcode" ⟨10, 0⟩ = .ok default ∧ (∃ s, start "http://a" = .ok s ∧ s.url = home) ∧
      (∀ a ∈ [crowded, withField (longValue 417792), withField (longName 65535), vast, inChunks (Chunks.padded 16384),
        inChunks (Chunks.trailed crowd), inChunks (Chunks.trailed drawnOut)], Strays (always a) a []) ∧
      Strays (relay (Url.queried 65534)) settled [(plain (moved (Url.queried 65534)), Url.queriedUrl 65534)] ∧
      Strays (relay "http://b\"/") settled [(plain (moved "http://b\"/"), marked)] := by
  refine ⟨ofSettings_of_isSendable (by decide) _, exists_start, ?_, strays_endless, strays_marked⟩
  simp only [List.forall_mem_cons]
  exact ⟨strays_crowded,
    strays_withField (stays_longValue _) (other_longValue _) (not_hasRoom_longValue (by decide)),
    strays_withField (stays_longName _) (other_longName (by decide)) (not_hasRoom_longName (by decide)),
    strays_vast, strays_padded, strays_crowd, strays_drawnOut, nofun⟩

end Client

end CredentialFailover.Http
