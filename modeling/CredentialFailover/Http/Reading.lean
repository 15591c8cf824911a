/-
Reading octets from the front, as they arrive.

A reading gives a value and the octets after it; or the octets end too early; or they cannot be what is read, whatever
follows. Readings follow one another, and the first one that gives nothing decides.

Main fact: `andThen_done`.
-/
namespace CredentialFailover.Http

/-- what comes of reading octets -/
inductive Reading (α : Type) where
  | done (value : α) (rest : List UInt8)
  /-- more octets are needed -/
  | short
  | malformed

namespace Reading

variable {α β : Type}

/-- a reading, and another one of the octets after it -/
def andThen (r : Reading α) (f : α → List UInt8 → Reading β) : Reading β :=
  match r with
  | done value rest => f value rest
  | short => .short
  | malformed => .malformed

/-- a reading with its value changed -/
def map (f : α → β) (r : Reading α) : Reading β := r.andThen fun value rest => .done (f value) rest

@[simp] theorem andThen_done (value : α) (rest : List UInt8) (f : α → List UInt8 → Reading β) :
    (done value rest).andThen f = f value rest := rfl

end Reading

end CredentialFailover.Http
