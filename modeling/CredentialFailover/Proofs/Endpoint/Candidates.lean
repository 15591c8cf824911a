/-
The candidates, compared with what the overrides name.

A delimited list names the texts between its separators, each without the blanks at its ends, those that are blank
throughout left out; a single address names its text in the same way. `Makes` says which candidates two overrides make: the
endpoints of a list that names any, each at its first occurrence, or one head with the local providers that differ from
it. The candidates are these and no others.

Main facts: `parseList_eq_tokens`, `makes_iff`, `Makes.isProper`, `Makes.ne_nil`, `candidates_of_tokens`.
-/
import CredentialFailover.Endpoint.Candidates
import CredentialFailover.Proofs.Text.Cutting

namespace CredentialFailover

namespace Endpoint

/-- the characters that stand at neither end of an endpoint -/
def edges : List Char := [' ', '\t', '\r', '\n']

/-- the characters between the endpoints of a list -/
def separators : List Char := [',', ';', ' ']

/-- an endpoint with a text, and without blanks at its ends -/
structure IsProper (e : Endpoint) : Prop where
  text_ne : e.text ≠ ""
  first : ∀ c ∈ e.text.toList.head?, c ∉ edges
  last : ∀ c ∈ e.text.toList.getLast?, c ∉ edges

/-- the endpoint that a text names: all that stands around it are blanks -/
structure NamedBy (cs : List Char) (e : Endpoint) : Prop where
  proper : e.IsProper
  around : ∃ before after, cs = before ++ e.text.toList ++ after ∧ ∀ c ∈ before ++ after, c ∈ edges

/-- the endpoints that a delimited list names, in their order and as often as it names them -/
def tokens (raw : String) : List Endpoint :=
  ((raw.toList.splitOnP fun c => c ∈ separators).map ofChars).filter fun e => e.text ≠ ""

/-! ## Names -/

theorem isEdge_iff {c : Char} : Text.isEdge c = true ↔ c ∈ edges := by
  simp [Text.isEdge, edges, or_assoc]

theorem isEdge_eq_false_iff {c : Char} : Text.isEdge c = false ↔ c ∉ edges := by
  rw [← isEdge_iff, Bool.not_eq_true]

theorem isDelimiter_eq : isDelimiter = fun c => decide (c ∈ separators) := by
  funext c
  simp [isDelimiter, separators, ← beq_eq_decide, Bool.or_assoc]

theorem toList_ofChars (cs : List Char) : (ofChars cs).text.toList = Text.trim Text.isEdge cs := String.toList_ofList

/-- a text names what trimming leaves of it, if it leaves anything -/
theorem namedBy_iff {cs : List Char} {e : Endpoint} : e.NamedBy cs ↔ e = ofChars cs ∧ e.text ≠ "" := by
  constructor
  · rintro ⟨⟨hne, hfirst, hlast⟩, before, after, rfl, haround⟩
    refine ⟨?_, hne⟩
    have htrim : Text.trim Text.isEdge (before ++ e.text.toList ++ after) = e.text.toList :=
      Text.trim_of_around (fun c hc => isEdge_iff.2 (haround c hc)) (fun c hc => isEdge_eq_false_iff.2 (hfirst c hc))
        fun c hc => isEdge_eq_false_iff.2 (hlast c hc)
    obtain ⟨text⟩ := e
    rw [ofChars, htrim, String.ofList_toList]
  · rintro ⟨rfl, hne⟩
    obtain ⟨before, after, hcs, haround⟩ := Text.exists_around_trim Text.isEdge cs
    refine ⟨⟨hne, ?_, ?_⟩, before, after, ?_, fun c hc => isEdge_iff.1 (haround c hc)⟩
    · rw [toList_ofChars]
      exact fun c hc => isEdge_eq_false_iff.1 (Text.head?_trim hc)
    · rw [toList_ofChars]
      exact fun c hc => isEdge_eq_false_iff.1 (Text.getLast?_trim hc)
    · rw [toList_ofChars]
      exact hcs

theorem ofChars_text_eq_empty_iff {cs : List Char} : (ofChars cs).text = "" ↔ ∀ c ∈ cs, c ∈ edges := by
  simp only [← isEdge_iff]
  rw [← Text.trim_eq_nil_iff, ← toList_ofChars, String.toList_eq_nil_iff]

/-- a list names the endpoints of its pieces -/
theorem mem_tokens_iff {raw : String} {e : Endpoint} :
    e ∈ tokens raw ↔ ∃ piece ∈ raw.toList.splitOnP fun c => c ∈ separators, e.NamedBy piece := by
  simp only [tokens, List.mem_filter, List.mem_map, decide_eq_true_eq, namedBy_iff]
  constructor
  · rintro ⟨⟨piece, hpiece, rfl⟩, hne⟩
    exact ⟨piece, hpiece, rfl, hne⟩
  · rintro ⟨piece, hpiece, rfl, hne⟩
    exact ⟨⟨piece, hpiece, rfl⟩, hne⟩

/-! ## First occurrences -/

/-- one endpoint more, after the first occurrences of others -/
theorem addNew_eraseDups (es : List Endpoint) (e : Endpoint) :
    addNew es.eraseDups e = (es ++ [e].filter fun e => e.text ≠ "").eraseDups := by
  by_cases hne : e.text = ""
  · simp [addNew, isEmpty, hne]
  · rw [List.eraseDups_append, addNew]
    by_cases hmem : e ∈ es
    · simp [isEmpty, hne, hmem, List.removeAll]
    · simp [isEmpty, hne, hmem, List.removeAll, List.eraseDups_cons]

/-- endpoints added one after the other: those with a text, each at its first occurrence -/
theorem foldl_addNew (ts es : List Endpoint) :
    ts.foldl addNew es.eraseDups = (es ++ ts.filter fun e => e.text ≠ "").eraseDups := by
  induction ts generalizing es with
  | nil => simp
  | cons t ts ih =>
    calc (t :: ts).foldl addNew es.eraseDups
        = ts.foldl addNew (es ++ [t].filter fun e => e.text ≠ "").eraseDups := by rw [List.foldl_cons, addNew_eraseDups]
      _ = (es ++ ([t] ++ ts).filter fun e => e.text ≠ "").eraseDups := by rw [ih, List.append_assoc, ← List.filter_append]

theorem foldl_addNew_nil (ts : List Endpoint) :
    ts.foldl addNew [] = (ts.filter fun e => e.text ≠ "").eraseDups := foldl_addNew ts []

/-- a parsed list has the endpoints that the list names, each at its first occurrence -/
theorem parseList_eq_tokens (raw : String) : parseList raw = (tokens raw).eraseDups := by
  have hfold : parseList raw = ((Text.pieces isDelimiter raw.toList).map ofChars).foldl addNew [] := by
    rw [parseList, List.foldl_map]
  rw [hfold, foldl_addNew_nil, Text.pieces_eq_splitOnP, isDelimiter_eq]
  rfl

theorem eraseDups_of_nodup {es : List Endpoint} (h : es.Nodup) : es.eraseDups = es := by
  induction es with
  | nil => rfl
  | cons e es ih =>
    obtain ⟨hnot, hnodup⟩ := List.nodup_cons.1 h
    have hfilter : es.filter (fun d => !d == e) = es :=
      List.filter_eq_self.2 fun d hd => by simpa using fun heq : d = e => hnot (heq ▸ hd)
    rw [List.eraseDups_cons, hfilter, ih hnodup]

theorem isProper_of_ends {e : Endpoint} {c d : Char} (hfirst : e.text.toList.head? = some c)
    (hlast : e.text.toList.getLast? = some d) (hc : c ∉ edges) (hd : d ∉ edges) : e.IsProper where
  text_ne := by
    intro hempty
    rw [hempty] at hfirst
    cases hfirst
  first := by
    intro b hb
    rw [hfirst] at hb
    obtain rfl := Option.some.inj hb
    exact hc
  last := by
    intro b hb
    rw [hlast] at hb
    obtain rfl := Option.some.inj hb
    exact hd

theorem isProper_primary : primary.IsProper := isProper_of_ends rfl rfl (by decide) (by decide)

theorem isProper_of_mem_fallbacks {e : Endpoint} (h : e ∈ fallbacks) : e.IsProper := by
  simp only [fallbacks, List.mem_cons, List.not_mem_nil, or_false] at h
  rcases h with rfl | rfl
  · exact isProper_of_ends rfl rfl (by decide) (by decide)
  · exact isProper_of_ends rfl rfl (by decide) (by decide)

end Endpoint

namespace Overrides

open Endpoint

/-- the endpoints that the delimited list names, if there is a list -/
def tokens (o : Overrides) : List Endpoint :=
  match o.servers with
  | some raw => Endpoint.tokens raw
  | .none => []

/-- the candidate in front of the local providers: the one that the single address names, else the public provider -/
inductive Heads (o : Overrides) : Endpoint → Prop where
  | single {raw : String} {e : Endpoint} (hserver : o.server = some raw) (hnamed : e.NamedBy raw.toList) : Heads o e
  | primary (hblank : ∀ raw, o.server = some raw → ∀ c ∈ raw.toList, c ∈ edges) : Heads o Endpoint.primary

/-- the candidates that two overrides make: those of a list that names any, else a head and the local providers that differ
from it -/
inductive Makes (o : Overrides) : List Endpoint → Prop where
  | listed (htokens : o.tokens ≠ []) : Makes o o.tokens.eraseDups
  | defaults {head : Endpoint} (htokens : o.tokens = []) (hhead : Heads o head) :
    Makes o (head :: fallbacks.filter fun e => e ≠ head)

theorem heads_iff {o : Overrides} {e : Endpoint} : Heads o e ↔ e = o.first := by
  constructor
  · intro h
    cases h with
    | single hserver hnamed =>
      obtain ⟨rfl, hne⟩ := namedBy_iff.1 hnamed
      simp [first, hserver, ofText, isEmpty, hne]
    | primary hblank =>
      cases hserver : o.server with
      | none => simp [first, hserver]
      | some raw =>
        have hempty : (ofText raw).text = "" := ofChars_text_eq_empty_iff.2 (hblank raw hserver)
        simp [first, hserver, isEmpty, hempty]
  · rintro rfl
    cases hserver : o.server with
    | none =>
      have hfirst : o.first = Endpoint.primary := by simp [first, hserver]
      rw [hfirst]
      exact Heads.primary fun raw hraw => by rw [hserver] at hraw; cases hraw
    | some raw =>
      by_cases hempty : (ofText raw).text = ""
      · have hfirst : o.first = Endpoint.primary := by simp [first, hserver, isEmpty, hempty]
        rw [hfirst]
        refine Heads.primary fun raw' hraw' => ?_
        rw [hserver, Option.some.injEq] at hraw'
        exact hraw' ▸ ofChars_text_eq_empty_iff.1 hempty
      · have hfirst : o.first = ofText raw := by simp [first, hserver, isEmpty, hempty]
        rw [hfirst]
        exact Heads.single hserver (namedBy_iff.2 ⟨rfl, hempty⟩)

theorem isProper_of_heads {o : Overrides} {e : Endpoint} (h : Heads o e) : e.IsProper := by
  cases h with
  | single _ hnamed => exact hnamed.proper
  | primary => exact isProper_primary

theorem listed_eq (o : Overrides) : o.listed = o.tokens.eraseDups := by
  cases hservers : o.servers with
  | none => simp [listed, tokens, hservers]
  | some raw => simp only [listed, tokens, hservers, parseList_eq_tokens]

theorem listed_isEmpty_iff (o : Overrides) : o.listed.isEmpty = true ↔ o.tokens = [] := by
  rw [listed_eq]
  cases o.tokens with
  | nil => simp
  | cons e es => simp [List.eraseDups_cons]

/-- a head without a list: the local providers that differ from it come after it -/
theorem foldl_addNew_head {head : Endpoint} (h : head.IsProper) :
    (head :: fallbacks).foldl addNew [] = head :: fallbacks.filter fun e => e ≠ head := by
  have hproper : (head :: fallbacks).filter (fun e => e.text ≠ "") = head :: fallbacks := by
    refine List.filter_eq_self.2 fun e he => decide_eq_true ?_
    rcases List.mem_cons.1 he with rfl | he
    · exact h.text_ne
    · exact (isProper_of_mem_fallbacks he).text_ne
  have hnodup : (fallbacks.filter fun e => !e == head).Nodup := List.Nodup.filter _ (by decide)
  rw [foldl_addNew_nil, hproper, List.eraseDups_cons, eraseDups_of_nodup hnodup]
  simp [← beq_eq_decide]

/-- **The candidates are those that the overrides make**, and no others. -/
theorem makes_iff {o : Overrides} {es : List Endpoint} : o.Makes es ↔ es = o.candidates := by
  constructor
  · intro h
    cases h with
    | listed htokens => rw [candidates, if_neg (mt o.listed_isEmpty_iff.1 htokens), listed_eq]
    | defaults htokens hhead =>
      rw [candidates, if_pos (o.listed_isEmpty_iff.2 htokens), ← heads_iff.1 hhead,
        foldl_addNew_head (isProper_of_heads hhead)]
  · rintro rfl
    by_cases htokens : o.tokens = []
    · have hhead : Heads o o.first := heads_iff.2 rfl
      rw [candidates, if_pos (o.listed_isEmpty_iff.2 htokens), foldl_addNew_head (isProper_of_heads hhead)]
      exact Makes.defaults htokens hhead
    · rw [candidates, if_neg (mt o.listed_isEmpty_iff.1 htokens), listed_eq]
      exact Makes.listed htokens

theorem isProper_of_mem_tokens {o : Overrides} {e : Endpoint} (h : e ∈ o.tokens) : e.IsProper := by
  unfold tokens at h
  split at h
  · obtain ⟨piece, -, hnamed⟩ := mem_tokens_iff.1 h
    exact hnamed.proper
  · cases h

theorem Makes.isProper {o : Overrides} {es : List Endpoint} (h : o.Makes es) : ∀ e ∈ es, e.IsProper := by
  intro e he
  cases h with
  | listed htokens => exact isProper_of_mem_tokens (List.mem_eraseDups.1 he)
  | defaults htokens hhead =>
    rcases List.mem_cons.1 he with rfl | he
    · exact isProper_of_heads hhead
    · exact isProper_of_mem_fallbacks (List.mem_of_mem_filter he)

theorem Makes.ne_nil {o : Overrides} {es : List Endpoint} (h : o.Makes es) : es ≠ [] := by
  cases h with
  | listed htokens =>
    obtain ⟨e, he⟩ := List.exists_mem_of_ne_nil _ htokens
    exact List.ne_nil_of_mem (List.mem_eraseDups.2 he)
  | defaults htokens hhead => exact List.cons_ne_nil _ _

/-- a list that names any endpoint decides alone -/
theorem candidates_of_tokens {o o' : Overrides} (hservers : o'.servers = o.servers) (htokens : o.tokens ≠ []) :
    o'.candidates = o.candidates := by
  have hsame : o'.tokens = o.tokens := by rw [tokens, tokens, hservers]
  have hlisted : o.Makes o.tokens.eraseDups := .listed htokens
  have hlisted' : o'.Makes o.tokens.eraseDups := hsame ▸ .listed (hsame ▸ htokens)
  rw [← makes_iff.1 hlisted, ← makes_iff.1 hlisted']

end Overrides

end CredentialFailover
