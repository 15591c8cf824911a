/-
A network of servers that play back given deliveries.

A server answers to the host and port by which it is asked. A request takes its next delivery; the last one stays for all
requests after it. A server keeps the requests it took. A request for any other host finds a connection that is closed
without an answer; an encrypted one finds none.
-/
import CredentialFailover.Http.Exchange

namespace CredentialFailover.Http

/-- a server: host and port, the deliveries to come, and the requests it took -/
structure Server where
  address : List UInt8
  deliveries : List Delivery
  taken : List Request

namespace Server

/-- a server after one request -/
def take (s : Server) (r : Request) : Server :=
  { s with deliveries := if s.deliveries.length ≤ 1 then s.deliveries else s.deliveries.tail, taken := s.taken ++ [r] }

/-- whether a server is asked by a request -/
def isAsked (s : Server) (r : Request) : Bool := s.address == r.url.hostField

/-- what a server delivers next -/
def next (s : Server) : Delivery := s.deliveries.head?.getD (.octets [] false)

end Server

/-- one request among servers -/
def serve (servers : List Server) (r : Request) : Delivery × List Server :=
  match servers with
  | [] => (.octets [] false, [])
  | s :: ss =>
    if s.isAsked r then (s.next, s.take r :: ss)
    else
      let rest := serve ss r
      (rest.1, s :: rest.2)

/-- a network of servers -/
def play : Network (List Server) := fun r servers =>
  if r.url.scheme = .http then serve servers r else (.refused, servers)

/-- a network without servers -/
def unreachable : Network Unit := fun _ st => (.refused, st)

end CredentialFailover.Http
