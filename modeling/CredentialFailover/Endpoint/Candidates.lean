/-
The candidates of an acquisition, in the order in which they are tried.

Two overrides may be given: a delimited list, and a single address. A list that names any endpoint is used alone. Without
one, the single address, or the public provider in its absence, comes first and two local providers follow, none of them
twice.

Main fact: `nodup_candidates`.
-/
import CredentialFailover.Endpoint.Basic

namespace CredentialFailover

/-- the public provider -/
def Endpoint.primary : Endpoint := ⟨"https://armconverter.com/anisette/irGb3Quww8zrhgqnzmrx"⟩

/-- the local providers -/
def Endpoint.fallbacks : List Endpoint := [⟨"http://127.0.0.1:6969"⟩, ⟨"http://localhost:6969"⟩]

/-- what may be set about the candidates: a delimited list, and a single address -/
structure Overrides where
  servers : Option String
  server : Option String
  deriving DecidableEq

namespace Overrides

/-- nothing set -/
def none : Overrides := ⟨.none, .none⟩

/-- the endpoints named by the delimited list -/
def listed (o : Overrides) : List Endpoint :=
  match o.servers with
  | some raw => Endpoint.parseList raw
  | .none => []

/-- the candidate that precedes the local providers -/
def first (o : Overrides) : Endpoint :=
  match o.server with
  | some raw => if (Endpoint.ofText raw).isEmpty then Endpoint.primary else Endpoint.ofText raw
  | .none => Endpoint.primary

/-- the candidates in the order in which they are tried -/
def candidates (o : Overrides) : List Endpoint :=
  if o.listed.isEmpty then (o.first :: Endpoint.fallbacks).foldl Endpoint.addNew [] else o.listed

theorem nodup_candidates (o : Overrides) : o.candidates.Nodup := by
  unfold candidates
  split
  · simp only [List.foldl_cons, Endpoint.fallbacks, List.foldl_nil]
    exact Endpoint.nodup_addNew _ (Endpoint.nodup_addNew _ (Endpoint.nodup_addNew _ List.nodup_nil))
  · unfold listed
    split
    · exact Endpoint.nodup_parseList _
    · exact List.nodup_nil

end Overrides

end CredentialFailover
