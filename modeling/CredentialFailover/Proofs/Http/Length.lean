/-
A body of a declared length is read in full, or not at all.

What is delivered behind the head is cut at the declared length if there is that much of it. If there is less, the answer is
refused, though its status and its fields were accepted before, and the reason says that the body could not be read. No
answer has a body that was cut short.

Three kinds of messages are outside of this: one with a head that there is no room for and one with a length that no body
can have are refused as a whole, and a coding of the body takes the place of the length (`not_inFull`).

Main fact: `get_inFull`.
-/
import CredentialFailover.Proofs.Http.Delivery

namespace CredentialFailover.Http

namespace Message

/-! ## Bodies of a declared length -/

/-- a message that leads nowhere, with a status that has a body, and a declared length -/
structure Announces (m : Message) (n : ℕ) : Prop where
  least : 200 ≤ m.status
  most : m.status ≤ 599
  body : m.status ≠ 204 ∧ m.status ≠ 304
  location : m.values "location" = []
  length : m.Declares n

/-- what comes of a body of a declared length: it is read if it is all there, and refused otherwise -/
structure InFull (m : Message) (n : ℕ) (result : Except Fault Response) : Prop where
  ok_iff : (∃ r, result = .ok r) ↔ n ≤ m.octets.length
  full : ∀ r, result = .ok r → r.status = m.status ∧ r.body = m.octets.take n ∧ m.ShownType r.contentType
  refused : m.octets.length < n → ∃ why, result = .error (.transport ("reading response body: " ++ why))

variable {m : Message} {n : ℕ} {bs : List UInt8} {staysOpen : Bool}

theorem Announces.isBodiless (h : m.Announces n) : Framing.isBodiless m.status = false :=
  isBodiless_eq_false h.least h.body

end Message

namespace Client

open Message

variable {σ : Type} {c : Client} {net : Network σ} {endpoint : Endpoint} {s : Start} {st : σ}
variable {m : Message} {n : ℕ} {bs : List UInt8} {staysOpen : Bool}

theorem readBody_of_length (c : Client) (url : Url) (staysOpen : Bool) (h : n ≤ m.octets.length) :
    c.readBody ⟨url, m.head, .length n, m.octets, staysOpen⟩ = .ok ⟨m.status, contentType m.head, m.octets.take n⟩ :=
  readBody_of_full c (Body.ofLength_of_le h staysOpen)

theorem readBody_of_short (c : Client) (url : Url) (staysOpen : Bool) (h : m.octets.length < n) :
    ∃ why, (c.readBody ⟨url, m.head, .length n, m.octets, staysOpen⟩).mapError Failure.fault =
      .error (.transport ("reading response body: " ++ why)) := by
  have hread : Framing.read staysOpen m.octets (.length n) = Body.missing staysOpen := Body.ofLength_of_lt h staysOpen
  cases staysOpen with
  | true =>
    simp only [readBody, hread, Body.missing, if_true]
    exact ⟨"timed out after " ++ c.timeout.text ++ "s", rfl⟩
  | false =>
    simp only [readBody, hread, Body.missing]
    exact ⟨"error decoding response body for url (" ++ url.text ++ ")", rfl⟩

/-- **A body of a declared length is read in full, or not at all.** Of a message that leads nowhere, that there is room for,
and that has no coding of its body, the GET gives the status, the content type that is shown and as many octets as are
declared, if there are so many; if there are fewer, it fails, and the reason says that the body could not be read. -/
theorem get_inFull (hstart : start endpoint.text = .ok s) (hdelivered : (net (c.firstRequest s) st).1 = .octets bs staysOpen)
    (hspelling : m.Spelling bs) (hannounces : m.Announces n) (hroom : m.HasRoom bs)
    (hcodings : m.values "transfer-encoding" = []) (hlimit : n ≤ 18446744073709551613) :
    m.InFull n (c.get net endpoint st).result := by
  have hframing := ofHead?_of_declares hannounces.isBodiless hcodings hannounces.length hlimit
  have harrive : c.arrive s.name (net (c.firstRequest s) st).1 = .ok ⟨m.head, .length n, m.octets, staysOpen⟩ := by
    rw [hdelivered]
    exact arrive_of_spelling c s.name staysOpen hspelling hannounces.least (hannounces.most.trans (by decide)) hroom hframing
  have hresult : (c.get net endpoint st).result =
      (c.readBody ⟨s.url, m.head, .length n, m.octets, staysOpen⟩).mapError Failure.fault := by
    rw [get_result c hstart, ask_of_arrival maxHops harrive (leadOf?_of_nowhere _ hannounces.location)]
    rfl
  rw [hresult]
  by_cases h : n ≤ m.octets.length
  · rw [readBody_of_length c s.url staysOpen h]
    refine ⟨⟨fun _ => h, fun _ => ⟨_, rfl⟩⟩, ?_, fun hlt => absurd h (Nat.not_le.2 hlt)⟩
    rintro r hr
    obtain rfl := Except.ok.inj hr
    exact ⟨rfl, rfl, shownType_contentType m⟩
  · obtain ⟨why, hwhy⟩ := readBody_of_short c s.url staysOpen (Nat.not_le.1 h)
    rw [hwhy]
    exact ⟨⟨nofun, fun hle => absurd hle h⟩, nofun, fun _ => ⟨why, rfl⟩⟩

/-- an answer with an octet more than it declares, and two content types -/
def trailing : Answer :=
  ⟨503, "", [("content-type", Utf8.bytes "text/html"), ("content-type", []), ("content-length", Utf8.bytes "2")],
    Utf8.bytes "ok!"⟩

/-- what an answer announces by fields that are received as they are -/
theorem announces_of_stays {a : Answer} (h : ∀ f ∈ a.headers, Stays f)
    (hstatus : 200 ≤ a.status ∧ a.status ≤ 599 ∧ a.status ≠ 204 ∧ a.status ≠ 304)
    (hlocation : (a.headers.filter (·.1 == "location")).map (·.2) = [])
    (hlength : (a.headers.filter (·.1 == "content-length")).map (·.2) = [Utf8.bytes (toString n)]) :
    (ofAnswer a).Announces n := by
  have hdeclared : (ofAnswer a).values "content-length" = [Utf8.bytes (toString n)] := (values_of_stays h rfl).trans hlength
  exact ⟨hstatus.1, hstatus.2.1, hstatus.2.2, (values_of_stays h rfl).trans hlocation, declares_toString hdeclared⟩

theorem get_inFull_trailing : (ofAnswer trailing).InFull 2 (default.get (always trailing) ⟨"http://a"⟩ ()).result := by
  obtain ⟨s, hstart, -⟩ := exists_start
  have hstays : ∀ f ∈ trailing.headers, Stays f := by decide
  have hannounces : (ofAnswer trailing).Announces 2 := announces_of_stays hstays (by decide) (by decide) (by decide)
  have hroom : (ofAnswer trailing).HasRoom trailing.wire := ⟨by decide, by decide, by decide⟩
  have hcodings : (ofAnswer trailing).values "transfer-encoding" = [] := (values_of_stays hstays rfl).trans (by decide)
  exact get_inFull hstart rfl (spelling_of_stays rfl hstays) hannounces hroom hcodings (by decide)

/-! ## What is outside -/

/-- without an answer a body is neither read nor is it said that it could not be read -/
theorem not_inFull_of_noAnswer (m : Message) (n : ℕ) (name : String) :
    ¬ m.InFull n (.error (Failure.noAnswer name).fault) := by
  intro h
  by_cases hoctets : n ≤ m.octets.length
  · obtain ⟨r, hr⟩ := h.ok_iff.2 hoctets
    cases hr
  · obtain ⟨why, hwhy⟩ := h.refused (Nat.not_le.1 hoctets)
    have hreason : "error sending request for url (" ++ name ++ ")" = "reading response body: " ++ why :=
      Fault.transport.inj (Except.error.inj hwhy)
    have hfirst := congrArg (fun s => s.toList.head?) hreason
    simp at hfirst

/-- an answer that there is no room for is not read -/
theorem not_inFull_of_no_room {a : Answer} {n : ℕ} (hspelling : (ofAnswer a).Spelling a.wire)
    (hannounces : (ofAnswer a).Announces n) (hroom : ¬ (ofAnswer a).HasRoom a.wire) :
    ¬ (ofAnswer a).InFull n (default.get (always a) ⟨"http://a"⟩ ()).result := by
  obtain ⟨s, hstart, -⟩ := exists_start
  have hleast : 100 ≤ (ofAnswer a).status := Nat.le_trans (by decide) hannounces.least
  have hmost : (ofAnswer a).status ≤ 999 := hannounces.most.trans (by decide)
  have hresult : (default.get (always a) ⟨"http://a"⟩ ()).result = _ :=
    get_of_unarrived hstart (arrive_of_no_room default s.name false hspelling hleast hmost hroom)
  rw [hresult]
  exact not_inFull_of_noAnswer _ _ _

/-- an answer with a hundred and one fields -/
def crowded : Answer := ⟨200, "", ("content-length", Utf8.bytes "2") :: List.replicate 100 ("x", []), Utf8.bytes "ok"⟩

/-- an answer with one more field than it needs -/
def withField (f : String × List UInt8) : Answer := ⟨200, "", [("content-length", Utf8.bytes "2"), f], Utf8.bytes "ok"⟩

/-- a field with so long a value -/
def longValue (n : ℕ) : String × List UInt8 := ("x", List.replicate n 0x78)

/-- a field with so long a name -/
def longName (n : ℕ) : String × List UInt8 := (String.ofList (List.replicate (n + 1) 'x'), [])

/-- an answer with a length that no body can have -/
def overlong : Answer := ⟨200, "", [("content-length", Utf8.bytes "18446744073709551614")], Utf8.bytes "ok"⟩

/-- an answer in chunks that declares a length as well -/
def coded : Answer :=
  ⟨200, "", [("transfer-encoding", Utf8.bytes "chunked"), ("content-length", Utf8.bytes "5")],
    Utf8.bytes "5\r\nhello\r\n0\r\n\r\n"⟩

theorem stays_length : Stays ("content-length", Utf8.bytes "2") := by decide

theorem stays_crowded : ∀ f ∈ crowded.headers, Stays f := by
  have hx : Stays ("x", []) := by decide
  refine List.forall_mem_cons.2 ⟨stays_length, fun f hf => ?_⟩
  rw [List.eq_of_mem_replicate hf]
  exact hx

theorem stays_withField {f : String × List UInt8} (h : Stays f) : ∀ g ∈ (withField f).headers, Stays g :=
  List.forall_mem_cons.2 ⟨stays_length, List.forall_mem_singleton.2 h⟩

theorem stays_longValue (n : ℕ) : Stays (longValue n) := by
  refine ⟨show Fields.isName "x" = true by decide, show "x".toList.map Char.toLower = "x".toList by decide, fun b hb => ?_⟩
  rw [List.eq_of_mem_replicate hb]
  decide

theorem stays_longName (n : ℕ) : Stays (longName n) := by
  have hletter : (decide ('x'.toNat < 0x80) && Fields.isNameOctet 'x'.toNat.toUInt8) = true := by decide
  refine ⟨?_, by simp [longName], nofun⟩
  simp only [longName, Fields.isName, String.toList_ofList, Bool.and_eq_true, List.all_eq_true]
  refine ⟨rfl, fun c hc => ?_⟩
  rw [List.eq_of_mem_replicate hc]
  exact Bool.and_eq_true_iff.1 hletter

/-- the names of the fields that say where to go on and how a body is framed -/
def framingNames : List String := ["content-length", "transfer-encoding", "location"]

theorem other_longValue (n : ℕ) : (longValue n).1 ∉ framingNames := show "x" ∉ framingNames by decide

theorem other_longName {n : ℕ} (h : 17 ≤ n) : (longName n).1 ∉ framingNames := by
  have hlength : (longName n).1.length = n + 1 := by simp [longName]
  have hshort : ∀ name ∈ framingNames, name.length ≤ 17 := by decide
  intro hmem
  have hbound := hshort _ hmem
  omega

/-- one more field changes nothing about the framing -/
theorem filter_withField {f : String × List UInt8} (h : f.1 ∉ framingNames) {name : String} (hname : name ∈ framingNames) :
    (withField f).headers.filter (·.1 == name) = [("content-length", Utf8.bytes "2")].filter (·.1 == name) := by
  have hnone : (f.1 == name) = false := beq_eq_false_iff_ne.2 fun hsame => h (hsame ▸ hname)
  simp only [withField, List.filter_cons, hnone]
  rfl

theorem not_hasRoom_crowded : ¬ (ofAnswer crowded).HasRoom crowded.wire := fun h => absurd h.fields (by decide)

theorem not_hasRoom_longValue {n : ℕ} (h : 417792 ≤ n) :
    ¬ (ofAnswer (withField (longValue n))).HasRoom (withField (longValue n)).wire := by
  intro hroom
  have hhead : (withField (longValue n)).wire.length ≤ (withField (longValue n)).octets.length + 417792 := hroom.head
  have hvalue : (longValue n).2.length = n := List.length_replicate
  have hheaders : (withField (longValue n)).headers = [("content-length", Utf8.bytes "2"), longValue n] := rfl
  rw [length_wire, length_write, hheaders] at hhead
  simp only [List.map_cons, List.map_nil, List.sum_cons, List.sum_nil, hvalue] at hhead
  omega

theorem not_hasRoom_longName {n : ℕ} (h : 65535 ≤ n) :
    ¬ (ofAnswer (withField (longName n))).HasRoom (withField (longName n)).wire := by
  intro hroom
  have hlength : (longName n).1.length = n + 1 := by simp [longName]
  have hname := hroom.names (longName n) (List.mem_cons_of_mem _ (List.mem_cons_self ..))
  omega

theorem announces_crowded : (ofAnswer crowded).Announces 2 :=
  announces_of_stays stays_crowded (by decide) (by decide) (by decide)

theorem announces_withField {f : String × List UInt8} (h : Stays f) (hother : f.1 ∉ framingNames) :
    (ofAnswer (withField f)).Announces 2 := by
  have hstatus : 200 ≤ 200 ∧ 200 ≤ 599 ∧ 200 ≠ 204 ∧ 200 ≠ 304 := by decide
  refine announces_of_stays (stays_withField h) hstatus ?_ ?_
  · rw [filter_withField hother (by decide)]
    decide
  · rw [filter_withField hother (by decide)]
    decide

theorem stays_overlong : ∀ f ∈ overlong.headers, Stays f := by decide

theorem stays_coded : ∀ f ∈ coded.headers, Stays f := by decide

theorem announces_overlong : (ofAnswer overlong).Announces 18446744073709551614 :=
  announces_of_stays stays_overlong (by decide) (by decide) (by decide)

theorem announces_coded : (ofAnswer coded).Announces 5 := announces_of_stays stays_coded (by decide) (by decide) (by decide)

theorem hasRoom_overlong : (ofAnswer overlong).HasRoom overlong.wire := ⟨by decide, by decide, by decide⟩

theorem hasRoom_coded : (ofAnswer coded).HasRoom coded.wire := ⟨by decide, by decide, by decide⟩

/-- chunks are read as chunks, whatever length is declared -/
theorem get_coded (hstart : start "http://a" = .ok s) :
    (default.get (always coded) ⟨"http://a"⟩ ()).result = .ok ⟨200, none, Utf8.bytes "hello"⟩ := by
  have hcodings : (ofAnswer coded).values "transfer-encoding" = [Utf8.bytes "chunked"] :=
    (values_of_stays stays_coded rfl).trans (by decide)
  have hframing : Framing.ofHead? (ofAnswer coded).head = some .chunks := by
    rw [ofHead?_head announces_coded.isBodiless, hcodings, if_pos (by decide), if_pos (by decide)]
  have hread : Framing.chunks.read false (ofAnswer coded).octets = .full (Utf8.bytes "hello") := by decide
  have htype : contentType (ofAnswer coded).head = none := by
    have hnone : (ofAnswer coded).values "content-type" = [] := (values_of_stays stays_coded rfl).trans (by decide)
    have hfirst : contentType (ofAnswer coded).head = ((ofAnswer coded).values "content-type").head?.bind shownValue? := rfl
    rw [hfirst, hnone]
    rfl
  have harrive : default.arrive s.name (always coded (default.firstRequest s) ()).1 = .ok _ :=
    arrive_of_spelling default s.name false (spelling_of_stays rfl stays_coded) (by decide) (by decide) hasRoom_coded
      hframing
  have hbody : default.readBody ⟨s.url, (ofAnswer coded).head, .chunks, (ofAnswer coded).octets, false⟩ =
      .ok ⟨200, contentType (ofAnswer coded).head, Utf8.bytes "hello"⟩ := readBody_of_full default hread
  rw [htype] at hbody
  rw [get_result default hstart, ask_of_arrival maxHops harrive (leadOf?_of_nowhere _ announces_coded.location)]
  exact congrArg (Except.mapError Failure.fault) hbody

/-- **Outside of this** a message with a head that there is no room for, or with too great a length, is refused before its
body is looked at, and a message in chunks is read as its chunks. -/
theorem not_inFull :
    (∀ a ∈ [crowded, withField (longValue 417792), withField (longName 65535)],
      (ofAnswer a).Spelling a.wire ∧ (ofAnswer a).Announces 2 ∧
        ¬ (ofAnswer a).InFull 2 (default.get (always a) ⟨"http://a"⟩ ()).result) ∧
    ((ofAnswer overlong).Spelling overlong.wire ∧ (ofAnswer overlong).Announces 18446744073709551614 ∧
      ¬ (ofAnswer overlong).InFull 18446744073709551614 (default.get (always overlong) ⟨"http://a"⟩ ()).result) ∧
    ((ofAnswer coded).Spelling coded.wire ∧ (ofAnswer coded).Announces 5 ∧
      ¬ (ofAnswer coded).InFull 5 (default.get (always coded) ⟨"http://a"⟩ ()).result) := by
  obtain ⟨s, hstart, -⟩ := exists_start
  have hnoRoom : ∀ a : Answer, (ofAnswer a).Spelling a.wire → (ofAnswer a).Announces 2 → ¬ (ofAnswer a).HasRoom a.wire →
      (ofAnswer a).Spelling a.wire ∧ (ofAnswer a).Announces 2 ∧
        ¬ (ofAnswer a).InFull 2 (default.get (always a) ⟨"http://a"⟩ ()).result :=
    fun a hspelling hannounces hroom => ⟨hspelling, hannounces, not_inFull_of_no_room hspelling hannounces hroom⟩
  have hoverlong := spelling_of_stays rfl stays_overlong
  refine ⟨?_, ⟨hoverlong, announces_overlong, ?_⟩, ⟨spelling_of_stays rfl stays_coded, announces_coded, ?_⟩⟩
  · simp only [List.forall_mem_cons]
    exact ⟨hnoRoom _ (spelling_of_stays rfl stays_crowded) announces_crowded not_hasRoom_crowded,
      hnoRoom _ (spelling_of_stays rfl (stays_withField (stays_longValue _)))
        (announces_withField (stays_longValue _) (other_longValue _)) (not_hasRoom_longValue (by decide)),
      hnoRoom _ (spelling_of_stays rfl (stays_withField (stays_longName _)))
        (announces_withField (stays_longName _) (other_longName (by decide))) (not_hasRoom_longName (by decide)), nofun⟩
  · have hcodings : (ofAnswer overlong).values "transfer-encoding" = [] :=
      (values_of_stays stays_overlong rfl).trans (by decide)
    have hframing := ofHead?_of_overlong announces_overlong.isBodiless hcodings announces_overlong.length (by decide)
    have harrive := arrive_of_unframed default s.name false hoverlong (by decide) (by decide) hasRoom_overlong hframing
    have hresult : (default.get (always overlong) ⟨"http://a"⟩ ()).result = _ := get_of_unarrived hstart harrive
    rw [hresult]
    exact not_inFull_of_noAnswer _ _ _
  · intro h
    have hbody := (h.full _ (get_coded hstart)).2.1
    exact absurd hbody (by decide)

end Client

end CredentialFailover.Http
