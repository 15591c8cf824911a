/-
Responses, and the documents they carry.

A response is accepted when its status is a success and its body is one JSON document. What is refused is described with
the status or the place of the fault, the content type, if it has one, and a snippet of the body.

Main facts: `document_eq_ok_iff` (which document a response carries), `exists_parse_fault` (a success without a document).
-/
import CredentialFailover.Fault
import CredentialFailover.Json.Reader
import CredentialFailover.Response.Snippet

namespace CredentialFailover

/-- an answer read in full -/
structure Response where
  status : Nat
  contentType : Option String
  body : List UInt8
  deriving DecidableEq

namespace Response

/-- a status that is a success -/
def isSuccess (status : Nat) : Bool := 200 ≤ status && status ≤ 299

/-- the content type that diagnostics name: an empty one counts as none -/
def namedType (r : Response) : Option String := r.contentType.filter (· ≠ "")

/-- a body that is no document, in words -/
def describeUnreadable (contentType : Option String) (snippet reason : String) : String :=
  "failed to parse anisette response as JSON" ++
    (match contentType with | some ct => " (" ++ ct ++ ")" | none => "") ++
    (if snippet = "" then "" else ": " ++ snippet) ++ " [" ++ reason ++ "]"

/-- the document that a response carries -/
def document (r : Response) : Except Fault Json.Value :=
  if isSuccess r.status then
    match Json.document r.body with
    | .ok d => .ok d
    | .error failure =>
      .error (.parse (describeUnreadable r.namedType (Snippet.ofBody r.body) (failure.describe r.body)))
  else .error (.httpStatus r.status r.namedType (Snippet.ofBody r.body))

theorem isSuccess_iff {status : Nat} : isSuccess status = true ↔ 200 ≤ status ∧ status ≤ 299 := by
  rw [isSuccess, Bool.and_eq_true, decide_eq_true_eq, decide_eq_true_eq]

/-- a response carries the document of its body when its status is a success -/
theorem document_eq_ok_iff {r : Response} {d : Json.Value} :
    r.document = .ok d ↔ isSuccess r.status = true ∧ Json.document r.body = .ok d := by
  unfold document
  split
  · rename_i hstatus
    split
    · rename_i d' hread
      simp only [hread, hstatus, true_and, Except.ok.injEq]
    · rename_i failure hread
      simp only [hread, reduceCtorEq, and_false]
  · rename_i hstatus
    simp only [hstatus, reduceCtorEq, false_and]

/-- a success carries the document that is read from its body -/
theorem document_of_success {status : Nat} (hstatus : isSuccess status = true) (contentType : Option String)
    {body : List UInt8} {d : Json.Value} (hread : Json.document body = .ok d) :
    (Response.mk status contentType body).document = .ok d :=
  document_eq_ok_iff.2 ⟨hstatus, hread⟩

/-- a status that is no success is refused, whatever the body -/
theorem document_of_refused {status : Nat} (hstatus : status < 200 ∨ 299 < status) (contentType : Option String)
    (body : List UInt8) : (Response.mk status contentType body).document =
      .error (.httpStatus status (Response.mk status contentType body).namedType (Snippet.ofBody body)) := by
  have hno : ¬ isSuccess status = true := by
    rw [isSuccess_iff]
    omega
  rw [document, if_neg hno]

/-- a body in which no document can be read is refused as such, when the status is a success -/
theorem exists_parse_fault {r : Response} (hstatus : isSuccess r.status = true)
    (hread : ∀ d, Json.document r.body ≠ .ok d) : ∃ reason, r.document = .error (.parse reason) := by
  unfold document
  rw [if_pos hstatus]
  cases hbody : Json.document r.body with
  | ok d => exact absurd hbody (hread d)
  | error failure => exact ⟨_, rfl⟩

end Response

end CredentialFailover
