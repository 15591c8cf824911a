/-
One GET over HTTP: the request, its redirects, and the answer read in full.

A client has a user agent and a timeout, and is given a network. An endpoint is read as an address; what cannot be asked
over HTTP never reaches the network. A request names its host, accepts JSON, and carries the user agent and, if the
address has credentials, an authorization. An answer with a redirecting status and a `location` that leads somewhere makes
the next request, at most ten times; that one names the page it comes from, and carries no authorization to another host.
Any other answer is accepted with its head, and then its body is read.

Main facts: `step_of_no_lead` (an answer that leads nowhere is accepted); `ask_of_settled`, `ask_succ_of_redirected`,
`ask_zero_of_redirected` (requests by their first one).
-/
import CredentialFailover.Acquisition.Walk
import CredentialFailover.Decimal.Shortest
import CredentialFailover.Http.Defaults
import CredentialFailover.Http.Exchange
import CredentialFailover.Http.Framing
import CredentialFailover.Http.Redirect
import CredentialFailover.Text.Base64

namespace CredentialFailover.Http

/-- how long a request and its redirects may take together -/
structure Timeout where
  seconds : Nat
  nanoseconds : Nat
  deriving DecidableEq

/-- the bits of a timeout in seconds, as a binary32 value -/
def Timeout.bits (t : Timeout) : Nat :=
  (Float32.ofNat t.seconds + Float32.ofNat t.nanoseconds / 1000000000).toBits.toNat

/-- a timeout in seconds, as a decimal -/
def Timeout.text (t : Timeout) : String := Decimal.binary32.text ⟨none, "", ""⟩ t.bits

/-- what can keep a request from an answer -/
inductive Failure where
  /-- the endpoint is no address -/
  | unreadable
  /-- the address cannot be asked -/
  | unusable (url : String)
  | noConnection (url : String)
  | noAnswer (url : String)
  | late (limit : Timeout)
  /-- one redirect too many -/
  | endless (url : String)
  | lateBody (limit : Timeout)
  | brokenBody (url : String)
  deriving DecidableEq

/-- the reason given for a failure -/
def Failure.reason : Failure → String
  | unreadable => "builder error"
  | unusable url => "builder error for url (" ++ url ++ ")"
  | noConnection url => "connection failed: error sending request for url (" ++ url ++ ")"
  | noAnswer url => "error sending request for url (" ++ url ++ ")"
  | late limit => "timed out after " ++ limit.text ++ "s"
  | endless url => "error following redirect for url (" ++ url ++ ")"
  | lateBody limit => "reading response body: timed out after " ++ limit.text ++ "s"
  | brokenBody url => "reading response body: error decoding response body for url (" ++ url ++ ")"

/-- a failure as a fault -/
def Failure.fault (f : Failure) : Fault := .transport f.reason

/-- a client -/
structure Client where
  userAgent : List UInt8
  timeout : Timeout
  deriving DecidableEq

namespace Client

/-- a client, if its user agent can be sent -/
def ofSettings (userAgent : String) (timeout : Timeout) : Except Fault Client :=
  match headerValue? userAgent with
  | some value => .ok ⟨value, timeout⟩
  | none =>
    .error (.invalidField "User-Agent" (Text.quoted userAgent ++ " is not a valid header value: " ++ badValueReason))

/-- the client of the settings that nothing changes -/
def default : Client := ⟨Utf8.bytes defaultUserAgent, ⟨defaultTimeout, 0⟩⟩

/-- how many redirects are followed -/
def maxHops : Nat := 10

/-- an address that is about to be asked -/
structure Start where
  /-- its text, as failures name it -/
  name : String
  url : Url
  authorization : Option (List UInt8)

/-- the field that proves who asks -/
def authorization (user : String) (password : Option String) : List UInt8 :=
  Utf8.encode ("Basic ".toList ++ Text.Base64.encode (Utf8.bytes (user ++ ":" ++ password.getD "")))

/-- an endpoint as an address that is about to be asked; its credentials are taken out of its text -/
def start (endpoint : String) : Except Failure Start :=
  match Url.parse endpoint with
  | none => .error .unreadable
  | some url =>
    let credentials := url.credentials?
    let bare := if credentials.isSome then url.withoutCredentials else url
    if bare.isHttp && Link.isLink bare then
      .ok ⟨bare.text, bare.withoutFragment, credentials.map fun c => authorization c.1 c.2⟩
    else .error (.unusable bare.text)

/-- the header fields that every request of a client has -/
def fields (c : Client) (url : Url) : Headers :=
  [("user-agent", c.userAgent), ("accept", Utf8.bytes "application/json"), ("host", url.hostField)]

/-- the first request -/
def firstRequest (c : Client) (s : Start) : Request :=
  ⟨"GET", s.url, c.fields s.url ++ s.authorization.toList.map (("authorization", ·)), []⟩

/-- host and port of an address -/
def place (u : Url) : Option (Host × Option Nat) := u.authority.map fun a => (a.host, a.port.or u.scheme.defaultPort)

/-- the page that a request names as its origin: nothing of an encrypted one is given away -/
def referer? (origin next : Url) : Option (List UInt8) :=
  if origin.scheme = .https ∧ next.scheme = .http then none
  else some (Utf8.bytes origin.withoutCredentials.withoutFragment.text)

/-- the request that a redirect of a request leads to; it keeps the method, as every redirecting status does for a GET -/
def nextRequest (c : Client) (s : Start) (r : Request) (next : Url) : Request :=
  ⟨r.method, next,
    c.fields next ++ (if place r.url = place next then s.authorization.toList.map (("authorization", ·)) else []) ++
      (referer? r.url next).toList.map (("referer", ·)), r.body⟩

/-- a status that redirects -/
def redirects (status : Nat) : Bool := [301, 302, 303, 307, 308].contains status

/-- where an answer leads, if it does -/
def leadOf? (url : Url) (h : Head) : Option Url :=
  if redirects h.status then
    ((h.headers.first? "location").bind Utf8.decode?).bind url.lead?
  else none

/-- an answer whose head has been read -/
structure Arrival where
  head : Head
  framing : Framing
  /-- the octets after the head -/
  octets : List UInt8
  staysOpen : Bool

/-- what comes of one request: an answer, or a failure named after where the requests started -/
def arrive (c : Client) (name : String) : Delivery → Except Failure Arrival
  | .refused => .error (.noConnection name)
  | .octets bs staysOpen =>
    match Head.final bs with
    | .short => .error (if staysOpen then .late c.timeout else .noAnswer name)
    | .malformed => .error (.noAnswer name)
    | .done head rest =>
      match Framing.ofHead? head with
      | some framing => .ok ⟨head, framing, rest, staysOpen⟩
      | none => .error (.noAnswer name)

/-- an answer that is accepted, and where it comes from -/
structure Accepted where
  url : Url
  arrival : Arrival

/-- what one delivery comes to: the end of the requests, or a redirect from an address, and what following it comes to -/
inductive Step where
  | settled (result : Except Failure Accepted)
  | redirected (origin : Url) (next : Except Failure Request)

/-- what a delivery for a request comes to -/
def step (c : Client) (s : Start) (r : Request) (d : Delivery) : Step :=
  match c.arrive s.name d with
  | .error f => .settled (.error f)
  | .ok a =>
    match leadOf? r.url a.head with
    | none => .settled (.ok ⟨r.url, a⟩)
    | some next =>
      .redirected r.url (if next.isHttp then .ok (c.nextRequest s r next) else .error (.unusable next.text))

/-- a request and its redirects, of which so many are followed: the accepted answer, and the network after it -/
def ask {σ : Type} (c : Client) (net : Network σ) (s : Start) : Nat → Request → σ → Except Failure Accepted × σ
  | hops, r, st =>
    match c.step s r (net r st).1, hops with
    | .settled result, _ => (result, (net r st).2)
    | .redirected origin _, 0 => (.error (.endless origin.text), (net r st).2)
    | .redirected _ (.error f), _ + 1 => (.error f, (net r st).2)
    | .redirected _ (.ok next), hops + 1 => ask c net s hops next (net r st).2

/-- the content type that an answer names -/
def contentType (h : Head) : Option String := (h.headers.first? "content-type").bind shownValue?

/-- an accepted answer, read in full -/
def readBody (c : Client) (a : Accepted) : Except Failure Response :=
  match a.arrival.framing.read a.arrival.staysOpen a.arrival.octets with
  | .full octets => .ok ⟨a.arrival.head.status, contentType a.arrival.head, octets⟩
  | .awaited => .error (.lateBody c.timeout)
  | .broken => .error (.brokenBody a.url.text)

/-- one GET of an endpoint -/
def get {σ : Type} (c : Client) (net : Network σ) : Transport σ := fun endpoint st =>
  match start endpoint.text with
  | .error f => ⟨.error f.fault, [], st⟩
  | .ok s =>
    match c.ask net s maxHops (c.firstRequest s) st with
    | (.error f, st) => ⟨.error f.fault, [], st⟩
    | (.ok a, st) =>
      match c.readBody a with
      | .ok r => ⟨.ok r, [.received endpoint a.arrival.head.status], st⟩
      | .error f => ⟨.error f.fault, [.received endpoint a.arrival.head.status], st⟩

theorem step_of_no_lead (c : Client) (s : Start) (r : Request) {d : Delivery} {a : Arrival}
    (ha : c.arrive s.name d = .ok a) (hl : leadOf? r.url a.head = none) : c.step s r d = .settled (.ok ⟨r.url, a⟩) := by
  simp only [step, ha, hl]

theorem ask_of_settled {σ : Type} (c : Client) (net : Network σ) (s : Start) (hops : Nat) (r : Request) (st : σ)
    {result : Except Failure Accepted} (h : c.step s r (net r st).1 = .settled result) :
    c.ask net s hops r st = (result, (net r st).2) := by
  unfold ask
  rw [h]

theorem ask_succ_of_redirected {σ : Type} (c : Client) (net : Network σ) (s : Start) (hops : Nat) (r : Request) (st : σ)
    {origin : Url} {next : Request} (h : c.step s r (net r st).1 = .redirected origin (.ok next)) :
    c.ask net s (hops + 1) r st = c.ask net s hops next (net r st).2 := by
  conv => lhs; unfold ask; rw [h]

theorem ask_zero_of_redirected {σ : Type} (c : Client) (net : Network σ) (s : Start) (r : Request) (st : σ)
    {origin : Url} {next : Except Failure Request} (h : c.step s r (net r st).1 = .redirected origin next) :
    c.ask net s 0 r st = (.error (.endless origin.text), (net r st).2) := by
  unfold ask
  rw [h]

end Client

end CredentialFailover.Http
