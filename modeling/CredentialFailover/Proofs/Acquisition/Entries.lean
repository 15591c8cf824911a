/-
One candidate, one line: what a call without a credential says.

Its wording is a headline and an entry for each candidate. A provider has a say in the entry of its candidate through its
body: through the snippet, the place and cause of what makes the body unreadable, the kind of a field, and the text of the
client time. Each of these is on one line, so an entry is (`Reply.oneLine_of_credential`), and the line feeds of the wording
are those in front of the entries. The other two texts of an entry, the reason of a transport and a content type, are no
part of a body; that they are on one line is a premise (`InLine`), as is that the texts of the candidates are.

Main fact: `walk_lists_candidates`.
-/
import CredentialFailover.Acquisition.Playback
import CredentialFailover.Proofs.Acquisition.Attempts
import CredentialFailover.Proofs.Credential.Acceptance
import CredentialFailover.Proofs.Text.Lines

namespace CredentialFailover

open Text (OneLine oneLine_append oneLine_toString oneLine_quoted)

/-! ## Faults of a document -/

theorem Field.oneLine_key (f : Field) : OneLine f.key := by
  cases f <;> decide

theorem Json.Kind.oneLine_name (kind : Json.Kind) : OneLine kind.name := by
  cases kind <;> decide

theorem Credential.Wrong.oneLine {f : Field} {v : Option Json.Value} {fault : Fault} (h : Wrong f v fault) :
    OneLine fault.message := by
  have hkey := f.oneLine_key
  -- the wordings are opened by `unfold` here and below: their equations are slow to derive with the texts in them
  cases h with
  | missing =>
    unfold Fault.message
    exact oneLine_append.2 ⟨by decide, hkey⟩
  | @otherKind v _ =>
    unfold Fault.message
    simp only [oneLine_append]
    exact ⟨⟨⟨by decide, hkey⟩, by decide⟩, by decide, v.kind.oneLine_name⟩

theorem Credential.oneLine_of_ofDocument {d : Json.Value} {fault : Fault} (h : ofDocument d = .error fault) :
    OneLine fault.message := by
  cases judged_iff.2 h with
  | noObject => exact oneLine_append.2 ⟨by decide, d.kind.oneLine_name⟩
  | wrongField _ hwrong => exact hwrong.oneLine
  | malformedTime => exact oneLine_append.2 ⟨by decide, oneLine_quoted _⟩

/-! ## Faults of a response -/

namespace Response

variable {contentType : Option String}

theorem oneLine_ofType : (∀ ct, contentType = some ct → OneLine ct) →
    OneLine (match contentType with | some ct => " (" ++ ct ++ ")" | none => "") := by
  intro h
  cases contentType with
  | none => decide
  | some ct => exact oneLine_append.2 ⟨oneLine_append.2 ⟨by decide, h ct rfl⟩, by decide⟩

theorem oneLine_ofSnippet (body : List UInt8) :
    OneLine (if Snippet.ofBody body = "" then "" else ": " ++ Snippet.ofBody body) := by
  split_ifs with h
  · decide
  · exact oneLine_append.2 ⟨by decide, Snippet.oneLine_ofBody body⟩

theorem oneLine_describeStatus (status : ℕ) (h : ∀ ct, contentType = some ct → OneLine ct) (body : List UInt8) :
    OneLine (Fault.describeStatus status contentType (Snippet.ofBody body)) := by
  unfold Fault.describeStatus
  simp only [oneLine_append]
  exact ⟨⟨⟨by decide, oneLine_toString status⟩, oneLine_ofType h⟩, oneLine_ofSnippet body⟩

theorem oneLine_describeUnreadable (h : ∀ ct, contentType = some ct → OneLine ct) (body : List UInt8) {reason : String}
    (hreason : OneLine reason) : OneLine (describeUnreadable contentType (Snippet.ofBody body) reason) := by
  unfold describeUnreadable
  simp only [oneLine_append]
  exact ⟨⟨⟨⟨⟨by decide, oneLine_ofType h⟩, oneLine_ofSnippet body⟩, by decide⟩, hreason⟩, by decide⟩

/-- a response that is refused is described on one line, whatever its status and its body are -/
theorem oneLine_of_document {r : Response} (h : ∀ ct, r.contentType = some ct → OneLine ct) {fault : Fault}
    (hfault : r.document = .error fault) : OneLine fault.message := by
  have hnamed : ∀ ct, r.namedType = some ct → OneLine ct := fun ct hct => h ct (Option.filter_eq_some_iff.1 hct).1
  unfold document at hfault
  split at hfault
  · split at hfault
    · cases hfault
    · obtain rfl := Except.error.inj hfault
      exact oneLine_describeUnreadable hnamed r.body (Json.Failure.oneLine_describe _ r.body)
  · obtain rfl := Except.error.inj hfault
    exact oneLine_describeStatus r.status hnamed r.body

end Response

/-! ## Replies -/

/-- what a transport gives has no line feed outside of a body -/
inductive InLine : Except Fault Response → Prop where
  | refused {reason : String} (hreason : OneLine reason) : InLine (.error (.transport reason))
  | answered {response : Response} (htype : ∀ ct, response.contentType = some ct → OneLine ct) : InLine (.ok response)

/-- the fault of an attempt is worded on one line -/
theorem Reply.oneLine_of_credential {σ : Type} {r : Reply σ} (h : InLine r.result) {fault : Fault}
    (hfault : r.credential = .error fault) : OneLine fault.message := by
  obtain ⟨result, log, after⟩ := r
  cases h with
  | refused hreason =>
    obtain rfl := Except.error.inj hfault
    exact oneLine_append.2 ⟨by decide, hreason⟩
  | @answered response htype =>
    simp only [credential, Response.credential] at hfault
    split at hfault
    · rename_i hdocument
      obtain rfl := Except.error.inj hfault
      exact response.oneLine_of_document htype hdocument
    · exact Credential.oneLine_of_ofDocument hfault

/-! ## The wording of many failures -/

/-- the entries are put one below the other, under what stands first -/
theorem Fault.intercalate_entries (head : String) (failures : List EndpointFailure) :
    "\n".intercalate (head :: failures.map fun f => "- " ++ f.describe) = head ++ describeFailures failures := by
  induction failures generalizing head with
  | nil => simp [describeFailures]
  | cons f fs ih =>
    rw [List.map_cons, String.intercalate_cons_cons, ih, describeFailures]
    simp only [String.append_assoc]
    rfl

namespace Acquisition

variable {σ : Type}

theorem exists_faults_of_first? {as : List (Except Fault Credential)} (h : first? as = none) :
    ∃ faults : List Fault, as = faults.map .error := by
  induction as with
  | nil => exact ⟨[], rfl⟩
  | cons a as ih =>
    cases a with
    | ok c => cases h
    | error fault =>
      obtain ⟨faults, rfl⟩ := ih h
      exact ⟨fault :: faults, rfl⟩

/-- without a credential every candidate is passed over with its fault -/
theorem passed_of_faults (es : List Endpoint) (faults : List Fault) :
    passed es (faults.map .error) = (es.zip faults).map fun p => p.2.failureOf p.1 := by
  induction es generalizing faults with
  | nil => rfl
  | cons e es ih =>
    cases faults with
    | nil => rfl
    | cons fault faults => exact congrArg (fault.failureOf e :: ·) (ih faults)

/-- the line that a failed call has for a candidate -/
def entry (e : Endpoint) (fault : Fault) : String := "- anisette endpoint failed [" ++ e.text ++ "]: " ++ fault.message

/-- the lines that a failed call has: a headline, and one line for each candidate -/
def listing (es : List Endpoint) (faults : List Fault) : List String :=
  "all anisette endpoints failed" :: (es.zip faults).map fun p => entry p.1 p.2

theorem describe_failureOf (e : Endpoint) (fault : Fault) : "- " ++ (fault.failureOf e).describe = entry e fault := by
  have hfront : "- " ++ "anisette endpoint failed [" = "- anisette endpoint failed [" := rfl
  unfold entry EndpointFailure.describe Fault.failureOf
  rw [← hfront]
  simp only [String.append_assoc]

theorem message_of_faults (es : List Endpoint) (faults : List Fault) :
    (Fault.allEndpointsFailed (passed es (faults.map .error))).message = "\n".intercalate (listing es faults) := by
  have hentries : (passed es (faults.map .error)).map (fun f => "- " ++ f.describe) =
      (es.zip faults).map fun p => entry p.1 p.2 := by
    rw [passed_of_faults, List.map_map]
    exact List.map_congr_left fun p _ => describe_failureOf p.1 p.2
  rw [listing, ← hentries, Fault.intercalate_entries]
  rfl

theorem oneLine_of_mem_listing {es : List Endpoint} {faults : List Fault} (htexts : ∀ e ∈ es, OneLine e.text)
    (hfaults : ∀ f ∈ faults, OneLine f.message) : ∀ l ∈ listing es faults, OneLine l := by
  refine List.forall_mem_cons.2 ⟨by decide, ?_⟩
  intro l hl
  obtain ⟨⟨e, f⟩, hp, rfl⟩ := List.mem_map.1 hl
  obtain ⟨he, hf⟩ := List.of_mem_zip hp
  unfold entry
  simp only [oneLine_append]
  exact ⟨⟨⟨by decide, htexts e he⟩, by decide⟩, hfaults f hf⟩

/-- **One candidate, one line.** If the texts of the candidates have no line feed, and what the transport gives has none
outside of the bodies, then a call without a credential has a fault for each candidate, and the lines of what it says are a
headline and one line for each candidate, in order, with its text and the wording of its fault. What is in the bodies adds no
line and takes none away. -/
theorem walk_lists_candidates (transport : Transport σ) {es : List Endpoint} (hne : es ≠ []) (s : σ)
    (htexts : ∀ e ∈ es, OneLine e.text) (hreplies : ∀ r ∈ replies transport es s, InLine r.result) {fault : Fault}
    (hfault : (walk transport es s).result = .error fault) :
    ∃ faults : List Fault, attempts transport es s = faults.map .error ∧ faults.length = es.length ∧
      Text.lines fault.message = listing es faults ∧ (Text.lines fault.message).length = es.length + 1 := by
  rw [walk_of_ne_nil transport hne, (walkFrom_spec transport [] es s).1, resultOf] at hfault
  split at hfault
  · cases hfault
  rename_i hnone
  obtain rfl := Except.error.inj hfault
  obtain ⟨faults, hfaults⟩ := exists_faults_of_first? hnone
  have hlength : faults.length = es.length := by
    rw [← length_attempts transport es s, hfaults, List.length_map]
  have hmessages : ∀ f ∈ faults, OneLine f.message := by
    intro f hf
    have hmem : .error f ∈ attempts transport es s := hfaults ▸ List.mem_map_of_mem hf
    obtain ⟨r, hr, hcredential⟩ := List.mem_map.1 hmem
    exact Reply.oneLine_of_credential (hreplies r hr) hcredential
  -- no entry has a line feed of its own, so cutting finds those between the entries and no others
  have hlines : Text.lines (Fault.allEndpointsFailed ([] ++ passed es (attempts transport es s))).message =
      listing es faults := by
    rw [List.nil_append, hfaults, message_of_faults]
    exact Text.lines_intercalate (List.cons_ne_nil _ _) (oneLine_of_mem_listing htexts hmessages)
  refine ⟨faults, hfaults, hlength, hlines, ?_⟩
  rw [hlines, listing, List.length_cons, List.length_map, List.length_zip, hlength, Nat.min_self]

/-- a provider that is refused, and one whose body looks like an entry of its own -/
def forging : Playback :=
  Playback.script [] "http://b"
    [.ok ⟨503, some "text/html", Utf8.bytes "down\n- anisette endpoint failed [http://c]: HTTP request failed: x"⟩]

theorem walk_lists_candidates_forging :
    ∃ fault, (walk Playback.play [⟨"http://a"⟩, ⟨"http://b"⟩] forging).result = .error fault ∧
      Text.lines fault.message =
        ["all anisette endpoints failed",
          "- anisette endpoint failed [http://a]: HTTP request failed: connection refused",
          "- anisette endpoint failed [http://b]: anisette server HTTP 503 (text/html): " ++
            "down - anisette endpoint failed [http://c]: HTTP request failed: x"] := by
  have hattempts : attempts Playback.play [⟨"http://a"⟩, ⟨"http://b"⟩] forging =
      [Fault.transport "connection refused", Fault.httpStatus 503 (some "text/html")
        "down - anisette endpoint failed [http://c]: HTTP request failed: x"].map .error := rfl
  have hreplies : ∀ r ∈ replies Playback.play [⟨"http://a"⟩, ⟨"http://b"⟩] forging, InLine r.result := by
    refine List.forall_mem_cons.2 ⟨InLine.refused (by decide), List.forall_mem_cons.2 ⟨InLine.answered ?_, nofun⟩⟩
    intro ct hct
    obtain rfl := Option.some.inj hct
    decide
  refine ⟨_, rfl, ?_⟩
  obtain ⟨faults, hfaults, -, hlines, -⟩ :=
    walk_lists_candidates Playback.play (by simp) forging (by decide) hreplies rfl
  obtain rfl := List.map_injective_iff.2 (fun _ _ h => Except.error.inj h) (hattempts.symm.trans hfaults)
  rw [hlines]
  rfl

end Acquisition

end CredentialFailover
