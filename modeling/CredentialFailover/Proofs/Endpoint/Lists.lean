/-
Delimited lists: what they name, and what becomes of them when they are put together.

A list is cut at its separators and names what its pieces name. Cutting goes through where two lists are joined by
separators, so the joint list names what the first names and then what the second names; parsed, the second adds to the
first what is not there yet. Which separators stand between two endpoints, and how many, makes no difference, and a parsed
list, written out again with any separators, is parsed to itself.

Main facts: `naming_iff`, `tokensOf_between`, `tokensOf_intercalate`, and `parseList_joins`, the whole.
-/
import CredentialFailover.Proofs.Endpoint.Candidates

namespace CredentialFailover.Endpoint

/-- the endpoints that pieces name one after the other; a piece of blanks alone names none -/
inductive Naming : List (List Char) → List Endpoint → Prop where
  | nil : Naming [] []
  | blank {piece : List Char} {pieces : List (List Char)} {es : List Endpoint} (hblank : ∀ c ∈ piece, c ∈ edges)
    (hrest : Naming pieces es) : Naming (piece :: pieces) es
  | named {piece : List Char} {e : Endpoint} {pieces : List (List Char)} {es : List Endpoint} (hnamed : e.NamedBy piece)
    (hrest : Naming pieces es) : Naming (piece :: pieces) (e :: es)

/-- a text of separators, one at least -/
structure Separates (s : String) : Prop where
  ne : s ≠ ""
  all : ∀ c ∈ s.toList, c ∈ separators

/-- an endpoint that a list can name: it has no separator inside -/
structure IsToken (e : Endpoint) : Prop where
  proper : e.IsProper
  whole : ∀ c ∈ e.text.toList, c ∉ separators

/-- the endpoints that characters name as a delimited list -/
def tokensOf (cs : List Char) : List Endpoint :=
  ((cs.splitOnP fun c => c ∈ separators).map ofChars).filter fun e => e.text ≠ ""

theorem tokens_eq_tokensOf (raw : String) : tokens raw = tokensOf raw.toList := rfl

/-! ## Pieces -/

/-- pieces name what trimming leaves of them, where it leaves anything -/
theorem naming_iff {pieces : List (List Char)} {es : List Endpoint} :
    Naming pieces es ↔ es = (pieces.map ofChars).filter fun e => e.text ≠ "" := by
  constructor
  · intro h
    induction h with
    | nil => rfl
    | blank hblank _ ih => simp [ofChars_text_eq_empty_iff.2 hblank, ih]
    | named hnamed _ ih =>
      obtain ⟨rfl, hne⟩ := namedBy_iff.1 hnamed
      simp [hne, ih]
  · rintro rfl
    induction pieces with
    | nil => exact Naming.nil
    | cons piece pieces ih =>
      by_cases hempty : (ofChars piece).text = ""
      · have hblank := Naming.blank (ofChars_text_eq_empty_iff.1 hempty) ih
        simpa [hempty] using hblank
      · have hnamed := Naming.named (namedBy_iff.2 ⟨rfl, hempty⟩) ih
        simpa [hempty] using hnamed

/-- what a list names has no separator inside -/
theorem isToken_of_mem_tokens {raw : String} {e : Endpoint} (h : e ∈ tokens raw) : e.IsToken := by
  obtain ⟨piece, hpiece, hproper, before, after, hcs, -⟩ := mem_tokens_iff.1 h
  refine ⟨hproper, fun c hc => of_decide_eq_false (Text.eq_false_of_mem_splitOnP hpiece ?_)⟩
  rw [hcs]
  exact List.mem_append_left _ (List.mem_append_right _ hc)

/-- an endpoint without a separator inside, as a list, names itself -/
theorem tokensOf_of_isToken {e : Endpoint} (h : e.IsToken) : tokensOf e.text.toList = [e] := by
  have hnamed : e.NamedBy e.text.toList := ⟨h.proper, [], [], by simp, by simp⟩
  obtain ⟨hofChars, hne⟩ := namedBy_iff.1 hnamed
  rw [tokensOf, List.splitOnP_eq_singleton fun c hc => decide_eq_false (h.whole c hc), List.map_singleton, ← hofChars]
  simp [hne]

/-! ## Lists put together -/

theorem tokensOf_append_cons {d : Char} (hd : d ∈ separators) (as bs : List Char) :
    tokensOf (as ++ d :: bs) = tokensOf as ++ tokensOf bs := by
  rw [tokensOf, List.splitOnP_append_cons as bs (decide_eq_true hd), List.map_append, List.filter_append]
  rfl

/-- separators in front name nothing -/
theorem tokensOf_append {ds : List Char} (hds : ∀ d ∈ ds, d ∈ separators) (bs : List Char) :
    tokensOf (ds ++ bs) = tokensOf bs := by
  induction ds with
  | nil => rfl
  | cons d ds ih =>
    calc tokensOf (d :: (ds ++ bs))
        = tokensOf [] ++ tokensOf (ds ++ bs) := tokensOf_append_cons (hds d (List.mem_cons_self ..)) [] (ds ++ bs)
      _ = tokensOf (ds ++ bs) := rfl
      _ = tokensOf bs := ih fun c hc => hds c (List.mem_cons_of_mem _ hc)

/-- a list is cut where separators stand in it, however many -/
theorem tokensOf_between {ds : List Char} (hne : ds ≠ []) (hds : ∀ d ∈ ds, d ∈ separators) (as bs : List Char) :
    tokensOf (as ++ ds ++ bs) = tokensOf as ++ tokensOf bs := by
  obtain ⟨d, ds, rfl⟩ := List.exists_cons_of_ne_nil hne
  rw [List.append_assoc, List.cons_append, tokensOf_append_cons (hds d (List.mem_cons_self ..)),
    tokensOf_append fun c hc => hds c (List.mem_cons_of_mem _ hc)]

/-- endpoints written out with separators between them are named one after the other -/
theorem tokensOf_intercalate {ds : List Char} (hne : ds ≠ []) (hds : ∀ d ∈ ds, d ∈ separators) {es : List Endpoint}
    (h : ∀ e ∈ es, e.IsToken) : tokensOf (ds.intercalate (es.map fun e => e.text.toList)) = es := by
  induction es with
  | nil => rfl
  | cons e es ih =>
    have he : tokensOf e.text.toList = [e] := tokensOf_of_isToken (h e (List.mem_cons_self ..))
    have hrest := ih fun d hd => h d (List.mem_cons_of_mem _ hd)
    cases es with
    | nil => simpa using he
    | cons e' es =>
      rw [List.map_cons] at hrest
      rw [List.map_cons, List.map_cons, List.intercalate_cons_cons, tokensOf_between hne hds, he, hrest]
      rfl

theorem tokens_between {s : String} (hs : Separates s) (a b : String) : tokens (a ++ s ++ b) = tokens a ++ tokens b := by
  have hne : s.toList ≠ [] := mt String.toList_eq_nil_iff.1 hs.ne
  simp only [tokens_eq_tokensOf, String.toList_append, tokensOf_between hne hs.all]

theorem tokens_intercalate {s : String} (hs : Separates s) {es : List Endpoint} (h : ∀ e ∈ es, e.IsToken) :
    tokens (s.intercalate (es.map Endpoint.text)) = es := by
  have hne : s.toList ≠ [] := mt String.toList_eq_nil_iff.1 hs.ne
  rw [tokens_eq_tokensOf, String.toList_intercalate, List.map_map]
  exact tokensOf_intercalate hne hs.all h

/-! ## First occurrences -/

/-- taking some endpoints out and keeping first occurrences can be done in either order -/
theorem eraseDups_filter (p : Endpoint → Bool) (es : List Endpoint) : (es.filter p).eraseDups = es.eraseDups.filter p := by
  induction hlength : es.length using Nat.strongRecOn generalizing es with
  | ind n ih =>
    cases es with
    | nil => rfl
    | cons e es =>
      have hshorter : (es.filter fun d => !d == e).length < n := by
        have hle := List.length_filter_le (fun d => !d == e) es
        rw [List.length_cons] at hlength
        omega
      -- the rest without the endpoint in front is shorter
      have hrest : ((es.filter p).filter fun d => !d == e).eraseDups =
          (es.filter fun d => !d == e).eraseDups.filter p := by
        rw [List.filter_comm, ih _ hshorter _ rfl]
      rw [List.eraseDups_cons]
      by_cases he : p e = true
      · rw [List.filter_cons_of_pos he, List.filter_cons_of_pos he, List.eraseDups_cons, hrest]
      · have hnot : (es.filter p).filter (fun d => !d == e) = es.filter p := by
          refine List.filter_eq_self.2 fun d hd => ?_
          have hd := List.of_mem_filter hd
          simpa using fun heq : d = e => he (heq ▸ hd)
        rw [List.filter_cons_of_neg he, List.filter_cons_of_neg he, ← hrest, hnot]

/-- the first occurrences in one list and then another: those of the second that the first has not -/
theorem eraseDups_append (as bs : List Endpoint) :
    (as ++ bs).eraseDups = as.eraseDups ++ bs.eraseDups.filter fun e => e ∉ as.eraseDups := by
  rw [List.eraseDups_append, List.removeAll, eraseDups_filter]
  simp

/-- a list of lists names what they name -/
theorem parseList_between {s : String} (hs : Separates s) (a b : String) :
    parseList (a ++ s ++ b) = parseList a ++ (parseList b).filter fun e => e ∉ parseList a := by
  rw [parseList_eq_tokens, parseList_eq_tokens, parseList_eq_tokens, tokens_between hs, eraseDups_append]

theorem parseList_intercalate {s : String} (hs : Separates s) (raw : String) :
    parseList (s.intercalate ((parseList raw).map Endpoint.text)) = parseList raw := by
  have htokens : ∀ e ∈ parseList raw, e.IsToken := by
    intro e he
    rw [parseList_eq_tokens, List.mem_eraseDups] at he
    exact isToken_of_mem_tokens he
  rw [parseList_eq_tokens, tokens_intercalate hs htokens, eraseDups_of_nodup (nodup_parseList raw)]

/-- **What a delimited list means, and how lists join.** A parsed list has the first occurrences of what the pieces between
its separators name. Two lists joined by separators are parsed to the first and, behind it, what the second has beyond it,
whichever separators they are and however many. A parsed list that is written out with separators between its endpoints
is parsed to itself. -/
theorem parseList_joins :
    (∀ raw, ∃ es, Naming (raw.toList.splitOnP fun c => c ∈ separators) es ∧ parseList raw = es.eraseDups) ∧
    (∀ a b d, d ∈ separators →
      parseList (a ++ String.singleton d ++ b) = parseList a ++ (parseList b).filter fun e => e ∉ parseList a) ∧
    (∀ a b s s', Separates s → Separates s' → parseList (a ++ s ++ b) = parseList (a ++ s' ++ b)) ∧
    (∀ raw s, Separates s → parseList (s.intercalate ((parseList raw).map Endpoint.text)) = parseList raw) := by
  refine ⟨?_, ?_, ?_, ?_⟩
  · intro raw
    exact ⟨tokens raw, naming_iff.2 rfl, parseList_eq_tokens raw⟩
  · intro a b d hd
    exact parseList_between ⟨by simp, by simpa using hd⟩ a b
  · intro a b s s' hs hs'
    rw [parseList_between hs, parseList_between hs']
  · intro raw s hs
    exact parseList_intercalate hs raw

theorem parseList_joins_local :
    parseList "http://a;\thttp://b\n" = [⟨"http://a"⟩, ⟨"http://b"⟩] ∧
      parseList ("http://a;\thttp://b\n" ++ String.singleton ',' ++ "http://b;http://c") =
        [⟨"http://a"⟩, ⟨"http://b"⟩, ⟨"http://c"⟩] ∧
      parseList ("http://a;\thttp://b\n" ++ " ;," ++ "http://b;http://c") =
        parseList ("http://a;\thttp://b\n" ++ String.singleton ',' ++ "http://b;http://c") ∧
      parseList (" ;,".intercalate ((parseList "http://a;\thttp://b\n").map Endpoint.text)) =
        [⟨"http://a"⟩, ⟨"http://b"⟩] := by
  obtain ⟨-, hjoin, hsame, hself⟩ := parseList_joins
  have hleft : parseList "http://a;\thttp://b\n" = [⟨"http://a"⟩, ⟨"http://b"⟩] := by decide
  have hright : parseList "http://b;http://c" = [⟨"http://b"⟩, ⟨"http://c"⟩] := by decide
  have hspaced : Separates " ;," := ⟨by decide, by simp [separators]⟩
  refine ⟨hleft, ?_, hsame _ _ _ _ hspaced ⟨by decide, by simp [separators]⟩, (hself _ _ hspaced).trans hleft⟩
  rw [hjoin _ _ ',' (by decide), hleft, hright]
  decide

end CredentialFailover.Endpoint
