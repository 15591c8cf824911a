/-
How a message is delivered, and what of it arrives.

The body of a message is framed by the length that it declares, by chunks, or by the end of the connection. One that is
delivered in full is read as its body (`read_of_delivered`); a declared length is the one that every field of it spells
(`agreed?_of_declares`). The content type that a message shows is its first one, if nothing in it is hidden.

Main facts: `read_of_delivered`, `arrive_of_spelling`, `shownType_contentType`.
-/
import CredentialFailover.Http.Client
import CredentialFailover.Proofs.Http.Chunks
import CredentialFailover.Proofs.Http.Message
import CredentialFailover.Proofs.Text.Cutting
import CredentialFailover.Proofs.Text.Decoding
import CredentialFailover.Proofs.Text.FixedWidth

namespace CredentialFailover.Http

namespace Message

/-! ## What a message declares and shows -/

/-- every field of the length spells one number, and there is such a field -/
structure Declares (m : Message) (n : ℕ) : Prop where
  ne_nil : m.values "content-length" ≠ []
  spelled : ∀ v ∈ m.values "content-length", ∃ ds, ds ≠ [] ∧ Text.Spells ds.length n ds ∧ v = Utf8.encode ds

/-- a tab, or a printable octet of ASCII -/
def IsShown (b : UInt8) : Prop := b.toNat = 0x09 ∨ (0x20 ≤ b.toNat ∧ b.toNat ≤ 0x7E)

/-- the content type that a message shows: the first one, if there is one and nothing in it is hidden -/
inductive ShownType (m : Message) : Option String → Prop where
  | shown {s : String} (hfirst : (m.values "content-type").head? = some (Utf8.bytes s))
    (hshown : ∀ b ∈ Utf8.bytes s, IsShown b) : ShownType m (some s)
  | hidden {v : List UInt8} {b : UInt8} (hfirst : (m.values "content-type").head? = some v) (hb : b ∈ v)
    (hhidden : ¬ IsShown b) : ShownType m none
  | absent (hnone : m.values "content-type" = []) : ShownType m none

/-- a message is delivered in full with a body, framed by a declared length, by chunks that have something beside their data,
or by the end of the connection -/
inductive Delivered (m : Message) (staysOpen : Bool) : Chunks.Extras → List UInt8 → Prop where
  | declared {n : ℕ} (hcodings : m.values "transfer-encoding" = []) (hlength : m.Declares n)
    (hoctets : n ≤ m.octets.length) : Delivered m staysOpen .none (m.octets.take n)
  | chunked {x : Chunks.Extras} {body chunks rest : List UInt8}
    (hcodings : Framing.endsInChunks (m.values "transfer-encoding") = true) (hchunks : Chunks.Spelling x body chunks)
    (hoctets : m.octets = chunks ++ rest) : Delivered m staysOpen x body
  | closed (hcodings : Framing.endsInChunks (m.values "transfer-encoding") = false)
    (hlength : m.values "transfer-encoding" = [] → m.values "content-length" = []) (hclosed : staysOpen = false) :
    Delivered m staysOpen .none m.octets

/-- the head of a message as it is received -/
def head (m : Message) : Head := ⟨false, m.status, receive m.fields⟩

variable {m : Message} {n : ℕ}

/-! ## Lengths -/

theorem isBlank_of_isDigit {c : Char} (h : c.isDigit = true) : Text.isBlank c = false := by
  obtain ⟨hlt, hc⟩ := Text.digitChar_of_between (Text.isDigit_iff_between.1 h)
  have hall : ∀ d < 10, Text.isBlank (Nat.digitChar d) = false := by decide
  exact hc ▸ hall _ hlt

/-- digits are read as the number they spell -/
theorem declared?_of_spells {ds : List Char} (hds : ds ≠ []) (h : Text.Spells ds.length n ds) :
    Framing.declared? ds = some n := by
  have hdigits : ∀ c ∈ ds, c.isDigit = true := fun c hc => Text.isDigit_iff_between.2 (h.digits c hc)
  have htrim : Text.trim Text.isBlank ds = ds := by
    have haround : Text.trim Text.isBlank ([] ++ ds ++ []) = ds :=
      Text.trim_of_around (by simp) (fun c hc => isBlank_of_isDigit (hdigits c (List.mem_of_mem_head? hc)))
        fun c hc => isBlank_of_isDigit (hdigits c (List.mem_of_mem_getLast? hc))
    simpa using haround
  have hvalue : ds.foldl (fun acc d => 10 * acc + (d.toNat - '0'.toNat)) 0 = n := by
    rw [← h.value]
    congr 1
    funext acc d
    omega
  have hall : ds.all Char.isDigit = true := List.all_eq_true.2 hdigits
  have hsome : ds.isEmpty = false := by simp [hds]
  simp only [Framing.declared?, htrim, hall, hsome, hvalue]
  rfl

/-- digits are shown as they are -/
theorem shownValue?_encode {ds : List Char} (h : ∀ c ∈ ds, c.isDigit = true) :
    shownValue? (Utf8.encode ds) = some (String.ofList ds) := by
  have hrange : ∀ c ∈ ds, 48 ≤ c.toNat ∧ c.toNat ≤ 57 := fun c hc => Text.isDigit_iff.1 (h c hc)
  have hascii : ∀ c ∈ ds, c.toNat < 0x80 := fun c hc => by have := hrange c hc; omega
  have hall : (Utf8.encode ds).all (fun b => b == Ascii.tab || (0x20 ≤ b && b ≤ 0x7E)) = true := by
    rw [Utf8.encode_of_ascii hascii, List.all_eq_true]
    intro b hb
    obtain ⟨c, hc, rfl⟩ := List.mem_map.1 hb
    have hc := hrange c hc
    have hvalue : c.toNat.toUInt8.toNat = c.toNat := Utf8.toNat_ofNat (by omega)
    simp only [Bool.or_eq_true, Bool.and_eq_true, decide_eq_true_eq, UInt8.le_iff_toNat_le, hvalue]
    right
    exact ⟨by change 32 ≤ _; omega, by change _ ≤ 126; omega⟩
  rw [shownValue?, if_pos hall, Utf8.encode_of_ascii hascii, Utf8.map_ofNat_of_ascii hascii]

/-- a number declares itself by its digits -/
theorem declares_toString (h : m.values "content-length" = [Utf8.bytes (toString n)]) : m.Declares n := by
  refine ⟨by simp [h], fun v hv => ⟨Nat.toDigits 10 n, by simp, ⟨rfl, ?_, ?_⟩, ?_⟩⟩
  · exact fun c hc => Text.isDigit_iff_between.1 (Text.isDigit_of_mem_toDigits hc)
  · have hvalue := Nat.ofDigitChars_ten_toDigits (n := n)
    rw [Nat.ofDigitChars] at hvalue
    simpa only [Nat.mul_comm 10] using hvalue
  · rw [h, List.mem_singleton] at hv
    have htext : (toString n).toList = Nat.toDigits 10 n := Nat.toList_repr
    rw [hv, Utf8.bytes, htext]

theorem parts?_cons (v : List UInt8) (vs : List (List UInt8)) :
    Framing.parts? (v :: vs) =
      (shownValue? v).bind fun s => (Framing.parts? vs).map fun ps => Text.pieces (· == ',') s.toList ++ ps := by
  simp only [Framing.parts?, List.mapM_cons]
  cases shownValue? v with
  | none => rfl
  | some s => cases vs.mapM shownValue? <;> rfl

/-- the parts of fields that each spell one number are these spellings -/
theorem mapM_declared?_of_spells {vs : List (List UInt8)}
    (h : ∀ v ∈ vs, ∃ ds, ds ≠ [] ∧ Text.Spells ds.length n ds ∧ v = Utf8.encode ds) :
    (Framing.parts? vs).bind (·.mapM Framing.declared?) = some (List.replicate vs.length n) := by
  induction vs with
  | nil => rfl
  | cons v vs ih =>
    obtain ⟨ds, hds, hspells, rfl⟩ := h v (List.mem_cons_self ..)
    have hdigits : ∀ c ∈ ds, c.isDigit = true := fun c hc => Text.isDigit_iff_between.2 (hspells.digits c hc)
    have hclean : Text.pieces (· == ',') ds = [ds] := by
      refine Text.pieces_of_clean fun c hc => beq_eq_false_iff_ne.2 ?_
      rintro rfl
      exact absurd (hdigits ',' hc) (by decide)
    obtain ⟨ps, hps, hmore⟩ := Option.bind_eq_some_iff.1 (ih fun w hw => h w (List.mem_cons_of_mem _ hw))
    rw [parts?_cons, shownValue?_encode hdigits, hps]
    simp [hclean, declared?_of_spells hds hspells, hmore, List.replicate_succ]

/-- **The length that all fields spell is the declared one**, if a body can be that long. -/
theorem agreed?_of_declares (h : m.Declares n) (hn : n ≤ Framing.maxLength) :
    Framing.agreed? (m.values "content-length") = some n := by
  obtain ⟨v, vs, hvs⟩ := List.exists_cons_of_ne_nil h.ne_nil
  rw [Framing.agreed?, mapM_declared?_of_spells h.spelled, hvs]
  simp [List.replicate_succ, hn]

/-! ## Delivery -/

/-- a status of an answer proper has a body, but for two of them -/
theorem isBodiless_eq_false {status : ℕ} (hleast : 200 ≤ status) (hbody : status ≠ 204 ∧ status ≠ 304) :
    Framing.isBodiless status = false := by
  simp only [Framing.isBodiless, Bool.or_eq_false_iff, decide_eq_false_iff_not]
  omega

/-- how a message with a body is framed -/
theorem ofHead?_head (hstatus : Framing.isBodiless m.status = false) :
    Framing.ofHead? m.head =
      if m.values "transfer-encoding" ≠ [] then
        some (if Framing.endsInChunks (m.values "transfer-encoding") then .chunks else .untilClosed)
      else if m.values "content-length" = [] then some .untilClosed
      else (Framing.agreed? (m.values "content-length")).map .length := by
  have hhead : Framing.ofHead? m.head =
      if Framing.isBodiless m.status then some .empty
      else if !(m.values "transfer-encoding").isEmpty then
        some (if Framing.endsInChunks (m.values "transfer-encoding") then .chunks else .untilClosed)
      else if (m.values "content-length").isEmpty then some .untilClosed
      else (Framing.agreed? (m.values "content-length")).map .length := rfl
  rw [hhead, hstatus]
  simp

/-- a length that no body can have frames nothing -/
theorem ofHead?_of_overlong (hstatus : Framing.isBodiless m.status = false) (hcodings : m.values "transfer-encoding" = [])
    (h : m.Declares n) (hn : Framing.maxLength < n) : Framing.ofHead? m.head = none := by
  have hnone : Framing.agreed? (m.values "content-length") = none := by
    obtain ⟨v, vs, hvs⟩ := List.exists_cons_of_ne_nil h.ne_nil
    rw [Framing.agreed?, mapM_declared?_of_spells h.spelled, hvs]
    simp [List.replicate_succ, hn]
  rw [ofHead?_head hstatus, if_neg (not_not.2 hcodings), if_neg h.ne_nil, hnone, Option.map_none]

theorem ofHead?_of_declares (hstatus : Framing.isBodiless m.status = false) (hcodings : m.values "transfer-encoding" = [])
    (h : m.Declares n) (hn : n ≤ Framing.maxLength) : Framing.ofHead? m.head = some (.length n) := by
  rw [ofHead?_head hstatus, if_neg (not_not.2 hcodings), if_neg h.ne_nil, agreed?_of_declares h hn, Option.map_some]

/-- **A message that is delivered in full is read as its body**, if there is room for what it has beside its data. -/
theorem read_of_delivered {staysOpen : Bool} {x : Chunks.Extras} {body : List UInt8}
    (hstatus : Framing.isBodiless m.status = false) (h : m.Delivered staysOpen x body)
    (hbody : body.length ≤ Framing.maxLength) :
    ∃ framing, Framing.ofHead? m.head = some framing ∧ (x.Fit → framing.read staysOpen m.octets = .full body) := by
  cases h with
  | @declared n hcodings hlength hoctets =>
    rw [List.length_take, Nat.min_eq_left hoctets] at hbody
    exact ⟨_, ofHead?_of_declares hstatus hcodings hlength hbody, fun _ => Body.ofLength_of_le hoctets staysOpen⟩
  | @chunked x body chunks rest hcodings hchunks hoctets =>
    have hsome : m.values "transfer-encoding" ≠ [] := by
      intro hnone
      rw [hnone] at hcodings
      cases hcodings
    refine ⟨.chunks, by rw [ofHead?_head hstatus, if_pos hsome, if_pos hcodings], fun hx => ?_⟩
    rw [hoctets]
    exact Chunks.read_of_spelling hchunks hx (hbody.trans_lt (by decide)) staysOpen rest
  | closed hcodings hlength hclosed =>
    refine ⟨.untilClosed, ?_, fun _ => by rw [hclosed]; rfl⟩
    rw [ofHead?_head hstatus]
    by_cases hsome : m.values "transfer-encoding" = []
    · rw [if_neg (not_not.2 hsome), if_pos (hlength hsome)]
    · rw [if_pos hsome, hcodings]
      rfl

/-! ## Arrival -/

/-- a message whose framing can be read arrives -/
theorem arrive_of_spelling (c : Client) (name : String) (staysOpen : Bool) {bs : List UInt8} {framing : Framing}
    (h : m.Spelling bs) (hleast : 200 ≤ m.status) (hmost : m.status ≤ 999) (hroom : m.HasRoom bs)
    (hframing : Framing.ofHead? m.head = some framing) :
    c.arrive name (.octets bs staysOpen) = .ok ⟨m.head, framing, m.octets, staysOpen⟩ := by
  have hfinal : Head.final bs = .done m.head m.octets := final_of_spelling h hleast hmost hroom
  simp only [Client.arrive, hfinal, hframing]

/-- a message whose framing cannot be read does not arrive -/
theorem arrive_of_unframed (c : Client) (name : String) (staysOpen : Bool) {bs : List UInt8} (h : m.Spelling bs)
    (hleast : 200 ≤ m.status) (hmost : m.status ≤ 999) (hroom : m.HasRoom bs)
    (hframing : Framing.ofHead? m.head = none) : c.arrive name (.octets bs staysOpen) = .error (.noAnswer name) := by
  have hfinal : Head.final bs = .done m.head m.octets := final_of_spelling h hleast hmost hroom
  simp only [Client.arrive, hfinal, hframing]

/-- a message that there is no room for does not arrive -/
theorem arrive_of_no_room (c : Client) (name : String) (staysOpen : Bool) {bs : List UInt8} (h : m.Spelling bs)
    (hleast : 100 ≤ m.status) (hmost : m.status ≤ 999) (hroom : ¬ m.HasRoom bs) :
    c.arrive name (.octets bs staysOpen) = .error (.noAnswer name) := by
  simp only [Client.arrive, final_of_no_room h hleast hmost hroom]

/-- a message without a field that names another place leads nowhere -/
theorem leadOf?_of_nowhere (url : Url) (h : m.values "location" = []) : Client.leadOf? url m.head = none := by
  have hfirst : m.head.headers.first? "location" = (m.values "location").head? := rfl
  rw [Client.leadOf?, hfirst, h]
  simp

/-! ## Content types -/

theorem isShown_iff {b : UInt8} : (b == Ascii.tab || (0x20 ≤ b && b ≤ 0x7E)) = true ↔ IsShown b := by
  simp only [IsShown, Bool.or_eq_true, Bool.and_eq_true, beq_iff_eq, decide_eq_true_eq, UInt8.le_iff_toNat_le,
    ← UInt8.toNat_inj]
  rfl

/-- a value in which nothing is hidden is shown as the text that it is -/
theorem exists_shownValue {v : List UInt8} (h : ∀ b ∈ v, IsShown b) : ∃ s, shownValue? v = some s ∧ Utf8.bytes s = v := by
  have hall : (v.all fun b => b == Ascii.tab || (0x20 ≤ b && b ≤ 0x7E)) = true :=
    List.all_eq_true.2 fun b hb => isShown_iff.2 (h b hb)
  have hlt : ∀ b ∈ v, b.toNat < 0x80 := by
    intro b hb
    have hshown := h b hb
    unfold IsShown at hshown
    omega
  have hchar : ∀ b ∈ v, (Char.ofNat b.toNat).toNat = b.toNat := fun b hb =>
    Utf8.toNat_ofNat_of_isValidChar (Or.inl (by have := hlt b hb; omega))
  refine ⟨_, if_pos hall, ?_⟩
  have hascii : ∀ c ∈ v.map fun b => Char.ofNat b.toNat, c.toNat < 0x80 := by
    intro c hc
    obtain ⟨b, hb, rfl⟩ := List.mem_map.1 hc
    rw [hchar b hb]
    exact hlt b hb
  rw [Utf8.bytes, String.toList_ofList, Utf8.encode_of_ascii hascii, List.map_map]
  refine (List.map_congr_left fun b hb => ?_).trans (List.map_id v)
  simp [hchar b hb]

theorem shownValue?_of_hidden {v : List UInt8} {b : UInt8} (hb : b ∈ v) (hhidden : ¬ IsShown b) : shownValue? v = none := by
  refine if_neg fun hall => hhidden ?_
  exact isShown_iff.1 (List.all_eq_true.1 hall b hb)

/-- **The content type is the one that a message shows.** -/
theorem shownType_contentType (m : Message) : m.ShownType (Client.contentType m.head) := by
  have hfirst : Client.contentType m.head = (m.values "content-type").head?.bind shownValue? := rfl
  rw [hfirst]
  cases hvalues : (m.values "content-type").head? with
  | none => exact ShownType.absent (List.head?_eq_none_iff.1 hvalues)
  | some v =>
    rw [Option.bind_some]
    by_cases hshown : ∀ b ∈ v, IsShown b
    · obtain ⟨s, hs, rfl⟩ := exists_shownValue hshown
      rw [hs]
      exact ShownType.shown hvalues hshown
    · obtain ⟨b, hb, hhidden⟩ : ∃ b ∈ v, ¬ IsShown b := by simpa using hshown
      rw [shownValue?_of_hidden hb hhidden]
      exact ShownType.hidden hvalues hb hhidden

end Message

/-! ## One GET -/

namespace Client

variable {σ : Type} {c : Client} {net : Network σ} {endpoint : Endpoint} {s : Start} {st : σ}

/-- the result of a GET: the body of the answer that is accepted, or the failure that comes first -/
theorem get_result (c : Client) (hstart : start endpoint.text = .ok s) :
    (c.get net endpoint st).result =
      ((c.ask net s maxHops (c.firstRequest s) st).1.bind c.readBody).mapError Failure.fault := by
  rcases hask : c.ask net s maxHops (c.firstRequest s) st with ⟨f | a, after⟩
  · simp only [get, hstart, hask]
    rfl
  · rcases hread : c.readBody a with f | r
    · simp only [get, hstart, hask, hread, Except.bind]
      rfl
    · simp only [get, hstart, hask, hread, Except.bind]
      rfl

/-- an accepted answer whose octets are read in full -/
theorem readBody_of_full (c : Client) {a : Accepted} {octets : List UInt8}
    (h : a.arrival.framing.read a.arrival.staysOpen a.arrival.octets = .full octets) :
    c.readBody a = .ok ⟨a.arrival.head.status, contentType a.arrival.head, octets⟩ := by
  simp only [readBody, h]

/-- the state after a GET is the one after its requests -/
theorem get_after (c : Client) (hstart : start endpoint.text = .ok s) :
    (c.get net endpoint st).after = (c.ask net s maxHops (c.firstRequest s) st).2 := by
  rcases hask : c.ask net s maxHops (c.firstRequest s) st with ⟨f | a, after⟩
  · simp only [get, hstart, hask]
  · rcases hread : c.readBody a with f | r
    · simp only [get, hstart, hask, hread]
    · simp only [get, hstart, hask, hread]

theorem ask_of_arrival (hops : ℕ) {r : Request} {a : Arrival} (harrive : c.arrive s.name (net r st).1 = .ok a)
    (hlead : leadOf? r.url a.head = none) : (c.ask net s hops r st).1 = .ok ⟨r.url, a⟩ := by
  rw [ask_of_settled c net s hops r st (step_of_no_lead c s r harrive hlead)]

/-- an answer that does not arrive is a failure of the whole -/
theorem get_of_unarrived (hstart : start endpoint.text = .ok s) {f : Failure}
    (harrive : c.arrive s.name (net (c.firstRequest s) st).1 = .error f) :
    (c.get net endpoint st).result = .error f.fault := by
  have hstep : c.step s (c.firstRequest s) (net (c.firstRequest s) st).1 = .settled (.error f) := by
    simp only [step, harrive]
  rw [get_result c hstart, ask_of_settled c net s maxHops (c.firstRequest s) st hstep]
  rfl

/-! ## A network with one answer -/

/-- a network that delivers one answer, whatever is asked -/
def always (a : Answer) : Network Unit := fun _ _ => (.octets a.wire false, ())

/-- an address to start from -/
def home : Url := ⟨.http, some ⟨[], none, .name ['a'], none⟩, .segments [[]], none, none⟩

theorem exists_start : ∃ s, start "http://a" = .ok s ∧ s.url = home := by
  have hurl : (start "http://a").map Start.url = .ok home := by decide +kernel
  cases hstart : start "http://a" with
  | error f =>
    rw [hstart] at hurl
    cases hurl
  | ok s =>
    rw [hstart] at hurl
    exact ⟨s, rfl, Except.ok.inj hurl⟩

end Client

end CredentialFailover.Http
