/-
Where a location in full leads.

A location that names HTTP as its scheme, with two slashes behind it, is the same address from everywhere: what it is read
as depends on nothing but its own text (`join?_of_isFull`), and its scheme is HTTP. It is followed if the client can hold it.

Main facts: `lead?_of_isFull`, `lead?_of_endless` (a location that is too long is not followed).
-/
import CredentialFailover.Http.Redirect
import CredentialFailover.Proofs.Text.Cutting
import Mathlib.Data.String.Basic

namespace CredentialFailover.Http

/-- a text that names HTTP as its scheme, in letters of either case, with two slashes behind it -/
def IsFull (text : String) : Prop :=
  ∃ name rest, text.toList = name ++ [':', '/', '/'] ++ rest ∧ Ascii.lower (String.ofList name) = "http"

namespace Url

/-! ## Schemes -/

theorem isAlpha_of_toLower {c : Char} (h : c.toLower.isAlpha = true) : c.isAlpha = true := by
  by_cases hupper : c.val ≥ 'A'.val ∧ c.val ≤ 'Z'.val
  · have hc : c.isUpper = true := decide_eq_true hupper
    exact (congrArg (· || c.isLower) hc).trans (Bool.true_or _)
  · have hsame : c.toLower = c := by
      unfold Char.toLower
      rw [dif_neg hupper]
    rwa [hsame] at h

/-- the name of HTTP in letters of either case -/
theorem letters_of_lower {name : List Char} (h : Ascii.lower (String.ofList name) = "http") :
    name ≠ [] ∧ ∀ c ∈ name, c.isAlpha = true := by
  have hmap : name.map Char.toLower = "http".toList := by
    have hlist := congrArg String.toList h
    rwa [Ascii.lower, String.toList_map, String.toList_ofList] at hlist
  constructor
  · rintro rfl
    cases hmap
  · intro c hc
    have hlower : c.toLower ∈ "http".toList := hmap ▸ List.mem_map_of_mem hc
    have hall : ∀ d ∈ "http".toList, d.isAlpha = true := by simp
    exact isAlpha_of_toLower (hall _ hlower)

/-- what is between printable ends stays when the ends are trimmed -/
theorem exists_trim {p : Char → Bool} {front : List Char} (hfirst : ∀ c ∈ front.head?, p c = false)
    (hlast : ∀ c ∈ front.getLast?, p c = false) (hne : front ≠ []) (rest : List Char) :
    ∃ kept, Text.trim p (front ++ rest) = front ++ kept := by
  refine ⟨rest.rdropWhile p, ?_⟩
  have hsplit : front ++ rest = [] ++ (front ++ rest.rdropWhile p) ++ rest.rtakeWhile p := by
    rw [List.nil_append, List.append_assoc, List.rdropWhile_append_rtakeWhile]
  rw [hsplit]
  refine Text.trim_of_around ?_ ?_ ?_
  · intro c hc
    exact List.mem_rtakeWhile_imp hc
  · intro c hc
    obtain ⟨d, ds, rfl⟩ := List.exists_cons_of_ne_nil hne
    exact hfirst c hc
  · intro c hc
    by_cases hkept : rest.rdropWhile p = []
    · rw [hkept, List.append_nil] at hc
      exact hlast c hc
    · rw [List.getLast?_append_of_ne_nil _ hkept, List.getLast?_eq_some_getLast hkept] at hc
      obtain rfl := Option.some.inj hc
      exact Bool.eq_false_of_not_eq_true (List.rdropWhile_last_not p rest hkept)

theorem toNat_of_isAlpha {c : Char} (h : c.isAlpha = true) : 0x20 < c.toNat := by
  delta Char.isAlpha Char.isUpper Char.isLower at h
  simp only [Bool.or_eq_true, Bool.and_eq_true, decide_eq_true_eq, UInt32.le_iff_toNat_le, ge_iff_le] at h
  change (65 ≤ c.toNat ∧ c.toNat ≤ 90) ∨ (97 ≤ c.toNat ∧ c.toNat ≤ 122) at h
  omega

theorem filter_of_printable {cs : List Char} (h : ∀ c ∈ cs, 0x20 < c.toNat) :
    cs.filter (fun c => c ≠ '\t' && c ≠ '\n' && c ≠ '\r') = cs := by
  refine List.filter_eq_self.2 fun c hc => ?_
  have hrange := h c hc
  have hne : ∀ d : Char, d.toNat ≤ 0x20 → c ≠ d := by
    rintro d hd rfl
    omega
  simp [hne '\t' (by decide), hne '\n' (by decide), hne '\r' (by decide)]

/-- what counts of a text begins as the text does, if it begins with printable characters -/
theorem exists_relevant {text : String} {front rest : List Char} (htext : text.toList = front ++ rest) (hne : front ≠ [])
    (hfront : ∀ c ∈ front, 0x20 < c.toNat) : ∃ kept, relevant text = front ++ kept := by
  have hprintable : ∀ c ∈ front, decide (c.toNat ≤ 0x20) = false := fun c hc => decide_eq_false (Nat.not_le.2 (hfront c hc))
  obtain ⟨kept, hkept⟩ := exists_trim (p := fun c => decide (c.toNat ≤ 0x20))
    (fun c hc => hprintable c (List.mem_of_mem_head? hc)) (fun c hc => hprintable c (List.mem_of_mem_getLast? hc)) hne rest
  exact ⟨_, by rw [relevant, htext, hkept, List.filter_append, filter_of_printable hfront]⟩

/-- printable characters all count -/
theorem relevant_of_printable {text : String} (h : ∀ c ∈ text.toList, 0x20 < c.toNat) : relevant text = text.toList := by
  have hprintable : ∀ c ∈ text.toList, decide (c.toNat ≤ 0x20) = false := fun c hc => decide_eq_false (Nat.not_le.2 (h c hc))
  have htrim : Text.trim (fun c => decide (c.toNat ≤ 0x20)) ([] ++ text.toList ++ []) = text.toList :=
    Text.trim_of_around (by simp) (fun c hc => hprintable c (List.mem_of_mem_head? hc))
      fun c hc => hprintable c (List.mem_of_mem_getLast? hc)
  rw [List.nil_append, List.append_nil] at htrim
  rw [relevant, htrim, filter_of_printable h]

/-- the name of HTTP is cut off in front of a colon -/
theorem cutScheme?_append {name : List Char} (hname : Ascii.lower (String.ofList name) = "http") (rest : List Char) :
    cutScheme? (name ++ ':' :: rest) = some (.http, rest) := by
  obtain ⟨hne, hletters⟩ := letters_of_lower hname
  have hscheme : ∀ c ∈ name, isSchemeChar c = true := fun c hc => by
    simp [isSchemeChar, Char.isAlphanum, hletters c hc]
  have hcolon : ∀ c ∈ (':' :: rest).head?, isSchemeChar c = false := by
    rintro c hc
    obtain rfl := Option.some.inj hc
    decide
  obtain ⟨htake, hdrop⟩ := Text.span_append hscheme hcolon
  obtain ⟨c, cs, rfl⟩ := List.exists_cons_of_ne_nil hne
  have hhttp : Scheme.ofName "http" = .http := rfl
  simp only [cutScheme?, htake, hdrop, hletters c (List.mem_cons_self ..), if_true, hname, hhttp]

/-- the scheme is cut off a text in full, and two slashes are left -/
theorem cutScheme?_of_isFull {text : String} (h : IsFull text) :
    ∃ rest, cutScheme? (relevant text) = some (.http, '/' :: '/' :: rest) := by
  obtain ⟨name, rest, htext, hname⟩ := h
  obtain ⟨hne, hletters⟩ := letters_of_lower hname
  have hfront : ∀ c ∈ name ++ [':', '/', '/'], 0x20 < c.toNat := by
    intro c hc
    rcases List.mem_append.1 hc with hc | hc
    · exact toNat_of_isAlpha (hletters c hc)
    · have hmarks : ∀ d ∈ [':', '/', '/'], 0x20 < d.toNat := by simp
      exact hmarks c hc
  obtain ⟨kept, hkept⟩ := exists_relevant htext (by simp [hne]) hfront
  refine ⟨kept, ?_⟩
  rw [hkept, List.append_assoc]
  exact cutScheme?_append hname _

/-! ## Addresses -/

theorem scheme_of_withAuthority {scheme : Scheme} {cs : List Char} {u : Url} (h : withAuthority? scheme cs = some u) :
    u.scheme = scheme := by
  simp only [withAuthority?, Option.bind_eq_bind] at h
  split at h
  · cases h
  · simp only [Option.bind_eq_some_iff, Option.some.injEq] at h
    obtain ⟨a, -, rfl⟩ := h
    rfl

/-- a text in full is an address over HTTP -/
theorem scheme_of_isFull {text : String} {u : Url} (h : IsFull text) (hparse : parse text = some u) : u.scheme = .http := by
  obtain ⟨rest, hcut⟩ := cutScheme?_of_isFull h
  rw [parse, hcut, Option.bind_some] at hparse
  exact scheme_of_withAuthority hparse

/-- **A text in full is the same address from everywhere.** -/
theorem join?_of_isFull (base : Url) {text : String} (h : IsFull text) : base.join? text = parse text := by
  obtain ⟨rest, hcut⟩ := cutScheme?_of_isFull h
  have hslashes : ¬ (('/' :: '/' :: rest).takeWhile Scheme.http.isSlash).length < 2 := by
    have hslash : Scheme.http.isSlash '/' = true := rfl
    simp [hslash]
  rw [join?, parse, hcut]
  simp only [hslashes, and_false, if_false, Option.bind_some]

theorem lead?_of_isFull (base : Url) {text : String} {u : Url} (h : IsFull text) (hparse : parse text = some u)
    (hlink : Link.isLink u = true) : base.lead? text = some u.whole := by
  simp [lead?, join?_of_isFull base h, hparse, hlink]

/-! ## Addresses that are too long -/

/-- a host with a query of so many letters -/
def queried (n : ℕ) : String :=
  String.ofList (['h', 't', 't', 'p'] ++ [':', '/', '/'] ++ 'b' :: '/' :: '?' :: List.replicate n 'a')

theorem lower_http : Ascii.lower (String.ofList ['h', 't', 't', 'p']) = "http" :=
  Ascii.lower_of_toList (by rw [String.toList_ofList]; decide)

theorem isFull_queried (n : ℕ) : IsFull (queried n) := ⟨_, _, String.toList_ofList, lower_http⟩

theorem mem_queried {n : ℕ} {c : Char} (h : c ∈ (queried n).toList) :
    c ∈ ['h', 't', 't', 'p', ':', '/', '/', 'b', '/', '?', 'a'] := by
  have hmem : c ∈ ['h', 't', 't', 'p', ':', '/', '/', 'b', '/', '?'] ++ List.replicate n 'a' := by
    rw [queried, String.toList_ofList] at h
    exact h
  rcases List.mem_append.1 hmem with hc | hc
  · exact List.mem_append_left ['a'] hc
  · simp [List.eq_of_mem_replicate hc]

theorem relevant_queried (n : ℕ) :
    relevant (queried n) = ['h', 't', 't', 'p'] ++ [':', '/', '/'] ++ 'b' :: '/' :: '?' :: List.replicate n 'a' := by
  have hall : ∀ d ∈ ['h', 't', 't', 'p', ':', '/', '/', 'b', '/', '?', 'a'], 0x20 < d.toNat := by simp
  exact (relevant_of_printable fun c hc => hall c (mem_queried hc)).trans String.toList_ofList

/-- the address of such a text -/
def queriedUrl (n : ℕ) : Url :=
  ⟨.http, some ⟨[], none, .name ['b'], none⟩, .segments [[]], some (List.replicate n 'a'), none⟩

theorem parse_queried (n : ℕ) : parse (queried n) = some (queriedUrl n) := by
  have hletters : ∀ c ∈ List.replicate n 'a', c = 'a' := fun c hc => List.eq_of_mem_replicate hc
  have hauthority : Authority.parse? .http ['b'] = some (⟨[], none, .name ['b'], none⟩, []) := by decide +kernel
  have hpath : Path.ofText .http ['/'] = .segments [[]] := by decide +kernel
  have hfront : ('b' :: '/' :: '?' :: List.replicate n 'a').takeWhile (!endsAuthority .http ·) = ['b'] := rfl
  have hfollowing : ('/' :: '?' :: List.replicate n 'a').takeWhile (!endsPath ·) = ['/'] := rfl
  have hbehind : ('/' :: '?' :: List.replicate n 'a').dropWhile (!endsPath ·) = '?' :: List.replicate n 'a' := rfl
  have hquery : queryOf .http ('?' :: List.replicate n 'a') = some (List.replicate n 'a') := by
    have hwhole : (List.replicate n 'a').takeWhile (· ≠ '#') = List.replicate n 'a' :=
      List.takeWhile_eq_self_iff.2 fun c hc => by rw [hletters c hc]; rfl
    have hclean : ∀ c ∈ List.replicate n 'a', Percent.inSpecialQuery c = false := fun c hc => by rw [hletters c hc]; decide
    rw [queryOf, hwhole]
    exact congrArg some (Percent.encode_of_clean hclean)
  have hfragment : fragmentOf ('?' :: List.replicate n 'a') = none := by
    have hnone : ('?' :: List.replicate n 'a').dropWhile (· ≠ '#') = [] := by
      refine (Text.dropWhile_eq_nil_iff _ _).2 fun c hc => ?_
      rcases List.mem_cons.1 hc with rfl | hc
      · rfl
      · rw [hletters c hc]
        rfl
    rw [fragmentOf, hnone]
  have hafter : afterScheme? .http ('/' :: '/' :: 'b' :: '/' :: '?' :: List.replicate n 'a') =
      withAuthority? .http ('b' :: '/' :: '?' :: List.replicate n 'a') := rfl
  rw [parse, relevant_queried, List.append_assoc]
  rw [show [':', '/', '/'] ++ 'b' :: '/' :: '?' :: List.replicate n 'a' =
    ':' :: '/' :: '/' :: 'b' :: '/' :: '?' :: List.replicate n 'a' from rfl, cutScheme?_append lower_http,
    Option.bind_some, hafter]
  simp [withAuthority?, hfront, hauthority, hfollowing, hbehind, hpath, ending, hquery, hfragment, queriedUrl,
    Scheme.isSpecial]

theorem length_le_utf8Len (cs : List Char) : cs.length ≤ String.utf8Len cs := by
  induction cs with
  | nil => exact Nat.zero_le _
  | cons c cs ih =>
    have hc := c.utf8Size_pos
    rw [String.utf8Len_cons, List.length_cons]
    omega

/-- **A location that is too long is not followed.** -/
theorem lead?_of_endless (base : Url) {n : ℕ} (h : Link.longest ≤ n) : base.lead? (queried n) = none := by
  have hlength : Link.longest < (queriedUrl n).text.utf8ByteSize := by
    have hchars : n < (queriedUrl n).chars.length := by
      simp [chars, tailText, queriedUrl]
      omega
    rw [text, String.utf8ByteSize_ofList]
    exact (h.trans_lt hchars).trans_le (length_le_utf8Len _)
  have hlink : Link.isLink (queriedUrl n) = false := by
    rw [Link.isLink, decide_eq_false (Nat.not_le.2 hlength), Bool.false_and]
  simp [lead?, join?_of_isFull base (isFull_queried n), parse_queried, hlink]

end Url

end CredentialFailover.Http
