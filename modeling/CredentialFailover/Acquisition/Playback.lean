/-
A transport that plays back given replies.

Every endpoint has a list of replies. A request takes the next one; the last one stays for all requests after it. An
endpoint without replies refuses the connection. Nothing is logged.
-/
import CredentialFailover.Acquisition.Walk

namespace CredentialFailover

/-- the replies to come, by the text of the endpoint -/
abbrev Playback := List (String × List (Except Fault Response))

namespace Playback

/-- the replies that remain after one request -/
def next {α : Type} : List α → List α
  | [] => []
  | [r] => [r]
  | _ :: r :: rs => r :: rs

/-- the replies to come for an endpoint -/
def repliesOf (p : Playback) (endpoint : String) : List (Except Fault Response) :=
  (Keyed.get? endpoint p).getD []

/-- a playback with other replies to come for an endpoint -/
def script (p : Playback) (endpoint : String) (replies : List (Except Fault Response)) : Playback :=
  Keyed.insert endpoint replies p

/-- what an endpoint without replies answers -/
def refusal : Except Fault Response := .error (.transport "connection refused")

/-- one request -/
def play : Transport Playback := fun endpoint p =>
  let replies := p.repliesOf endpoint.text
  ⟨replies.head?.getD refusal, [], p.script endpoint.text (next replies)⟩

end Playback

end CredentialFailover
