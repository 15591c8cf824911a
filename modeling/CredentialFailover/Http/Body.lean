/-
Bodies of answers: read in full, or not at all.

Octets that are missing are waited for as long as the connection stays open, and the body is broken once it is closed.

Main facts: `ofLength_of_le`, `ofLength_of_lt` (so many octets are read in full or not at all).
-/
namespace CredentialFailover.Http

/-- what comes of reading a body -/
inductive Body where
  | full (octets : List UInt8)
  /-- octets are missing, and the connection stays open -/
  | awaited
  /-- octets are missing, and the connection is closed; or the octets are not framed as announced -/
  | broken
  deriving DecidableEq

namespace Body

/-- what comes of missing octets -/
def missing (staysOpen : Bool) : Body := if staysOpen then .awaited else .broken

/-- so many octets -/
def ofLength (staysOpen : Bool) (n : Nat) (bs : List UInt8) : Body :=
  if n ≤ bs.length then .full (bs.take n) else missing staysOpen

/-- all octets until the connection is closed -/
def untilClosed (staysOpen : Bool) (bs : List UInt8) : Body := if staysOpen then .awaited else .full bs

theorem ofLength_of_le {n : Nat} {bs : List UInt8} (h : n ≤ bs.length) (staysOpen : Bool) :
    ofLength staysOpen n bs = .full (bs.take n) := if_pos h

theorem ofLength_of_lt {n : Nat} {bs : List UInt8} (h : bs.length < n) (staysOpen : Bool) :
    ofLength staysOpen n bs = missing staysOpen := if_neg (Nat.not_le.2 h)

end Body

end CredentialFailover.Http
