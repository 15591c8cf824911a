/-
What the program prints is itself a valid answer, and it is the answer with the same credential.

The printed object has the ten keys in their order with a text under each, so it is read back as a document, whatever the
texts are. The credential of that document has the same texts; its client time is read from the form it is written in, and
its routing number from its decimal form, which is within the bounds because it came out of a document before.

Main facts: `document_render`, `ofDocument_document`, and `render_read_back` for accepted credentials.
-/
import CredentialFailover.Credential.Export
import CredentialFailover.Proofs.Credential.ClientTime
import CredentialFailover.Proofs.Credential.Routing
import CredentialFailover.Proofs.Json.Printing
import CredentialFailover.Response.Basic

namespace CredentialFailover.Credential

/-! ## The printed document -/

/-- every member of the document is one of the ten headers -/
theorem exists_header {c : Credential} {m : String × Json.Value}
    (h : m ∈ Keyed.ofList (c.headers.map fun h => (h.1, Json.Value.text h.2))) : ∃ s, m.2 = .text s := by
  obtain ⟨header, -, rfl⟩ := List.mem_map.1 (Keyed.mem_of_mem_ofList h)
  exact ⟨header.2, rfl⟩

/-- one level, and nothing but texts in it -/
theorem plain_document (c : Credential) : Json.Plain Json.maxDepth c.document := by
  refine Or.inr (Or.inr ⟨_, rfl, Keyed.ordered_ofList _, ?_⟩)
  intro m hm
  obtain ⟨s, hs⟩ := exists_header hm
  rw [hs]
  exact Or.inl trivial

/-- the printed form is read back as the document it was printed from -/
theorem document_render (c : Credential) : Json.document (Utf8.bytes c.render) = .ok c.document :=
  Json.document_pretty c.plain_document

/-- an answer with the printed form as its body carries that document -/
theorem document_answer (c : Credential) {status : ℕ} (hleast : 200 ≤ status) (hmost : status ≤ 299)
    (contentType : Option String) :
    (Response.mk status contentType (Utf8.bytes c.render)).document = .ok c.document :=
  Response.document_of_success (Response.isSuccess_iff.2 ⟨hleast, hmost⟩) contentType c.document_render

/-- under the key of a field the document has the text of its header -/
theorem get?_document (c : Credential) (f : Field) :
    Keyed.get? f.key (Keyed.ofList (c.headers.map fun h => (h.1, Json.Value.text h.2))) = some (.text (c.header f)) := by
  have hkeys : ((c.headers.map fun h => (h.1, Json.Value.text h.2)).map (·.1)) = Field.all.map Field.key := by
    simp [headers, Function.comp_def]
  have hnodup : (Field.all.map Field.key).Nodup := by decide
  refine Keyed.get?_ofList_of_mem (hkeys ▸ hnodup) (List.mem_map.2 ⟨(f.key, c.header f), ?_, rfl⟩)
  exact List.mem_map.2 ⟨f, f.mem_all, rfl⟩

/-! ## The credential in it -/

/-- the texts of the headers give the credential again -/
theorem ofTexts_header {c : Credential} (hl : RoutingNumber.least ≤ c.routing)
    (hg : c.routing ≤ RoutingNumber.greatest) : ofTexts c.header = .ok c := by
  have htime : ClientTime.parse? (c.header .clientTime) = some c.clientTime := ClientTime.parse?_text c.clientTime
  have hrouting : RoutingNumber.leading (c.header .routing) = c.routing := RoutingNumber.leading_toString hl hg
  rw [ofTexts, htime]
  simp only [hrouting]
  rfl

theorem ofDocument_document {c : Credential} (hl : RoutingNumber.least ≤ c.routing)
    (hg : c.routing ≤ RoutingNumber.greatest) : ofDocument c.document = .ok c := by
  have hfault : firstFault? (Keyed.ofList (c.headers.map fun h => (h.1, Json.Value.text h.2))) = none := by
    refine List.findSome?_eq_none_iff.2 ?_
    intro f _
    rw [get?_document]
    rfl
  have htext : textOf (Keyed.ofList (c.headers.map fun h => (h.1, Json.Value.text h.2))) = c.header := by
    funext f
    rw [textOf, get?_document]
  calc ofDocument c.document = ofMembers (Keyed.ofList (c.headers.map fun h => (h.1, Json.Value.text h.2))) := rfl
    _ = ofTexts c.header := by rw [ofMembers, hfault, htext]
    _ = .ok c := ofTexts_header hl hg

/-- the routing number of an accepted credential is within the bounds -/
theorem routing_mem {d : Json.Value} {c : Credential} (h : ofDocument d = .ok c) :
    RoutingNumber.least ≤ c.routing ∧ c.routing ≤ RoutingNumber.greatest := by
  unfold ofDocument ofMembers ofTexts at h
  split at h
  · cases h
  · split at h
    · cases h
    · split at h
      · cases h
      · obtain rfl := Except.ok.inj h
        exact RoutingNumber.leading_mem _

/-- **An accepted credential is read back from what is printed of it**, under every success status and content type, and
credentials that are printed alike are the same. -/
theorem render_read_back {d : Json.Value} {c : Credential} (h : ofDocument d = .ok c) :
    (∀ (status : ℕ) (contentType : Option String), 200 ≤ status → status ≤ 299 →
      ∃ d', (Response.mk status contentType (Utf8.bytes c.render)).document = .ok d' ∧ ofDocument d' = .ok c) ∧
    ∀ (d₂ : Json.Value) (c₂ : Credential), ofDocument d₂ = .ok c₂ → c₂.render = c.render → c₂ = c := by
  obtain ⟨hl, hg⟩ := routing_mem h
  constructor
  · intro status contentType hleast hmost
    exact ⟨c.document, c.document_answer hleast hmost contentType, ofDocument_document hl hg⟩
  · intro d₂ c₂ h₂ hrender
    obtain ⟨hl₂, hg₂⟩ := routing_mem h₂
    have hdocument : c₂.document = c.document := by
      have hread := c₂.document_render
      rw [hrender, document_render] at hread
      exact (Except.ok.inj hread).symm
    have hcredential := ofDocument_document hl₂ hg₂
    rw [hdocument, ofDocument_document hl hg] at hcredential
    exact (Except.ok.inj hcredential).symm

/-- a credential whose texts need every kind of escape, with the least routing number -/
def sample : Credential where
  machineId := ⟨"a\"b\\c/d"⟩
  oneTimePassword := ⟨"\x00\x08\t\n\x0C\r\x1F\x7F"⟩
  localUserId := ""
  routing := RoutingNumber.least
  deviceId := "é世𝄞"
  serialNumber := "0"
  clientInfo := "<MacBookPro13,2>"
  clientTime := ⟨2024, 2, 29, 23, 59, 59, by decide⟩
  locale := "en_US"
  timeZone := "UTC"

theorem ofDocument_sample : ofDocument sample.document = .ok sample := ofDocument_document (by decide) (by decide)

theorem render_read_back_sample :
    ∃ d', (Response.mk 299 (some "text/plain") (Utf8.bytes sample.render)).document = .ok d' ∧
      ofDocument d' = .ok sample :=
  (render_read_back ofDocument_sample).1 299 (some "text/plain") (by decide) (by decide)

end CredentialFailover.Credential
