/-
Lists of values under keys.

A list keeps its entries in strictly increasing order of their keys, code point by code point; `insert` puts an entry in
its place and replaces an earlier one of the same key, so two lists with the same entries are equal as data.

Main facts: `get?_insert_self`, `get?_insert_of_ne` (an entry is found under its key, and inserting one changes no other);
`ordered_insert`, `ordered_ofList`, `ofList_of_ordered` (the order is kept, and a list in order is left as it is);
`get?_ofList_of_mem` (in a list that names no key twice every entry is found again); `ofList_eq_of_settles` (entries in order
with the last one of each key are what `ofList` makes).
-/
namespace CredentialFailover.Keyed

/-- the value under a key -/
def get? {α : Type} (key : String) : List (String × α) → Option α
  | [] => none
  | (k, v) :: ms => if k = key then some v else get? key ms

/-- the entries with one added in its place, or put for the one of the same key -/
def insert {α : Type} (key : String) (v : α) : List (String × α) → List (String × α)
  | [] => [(key, v)]
  | (k, w) :: ms =>
    if key = k then (key, v) :: ms
    else if key < k then (key, v) :: (k, w) :: ms
    else (k, w) :: insert key v ms

/-- entries in the order of their keys, the last one of a key counting -/
def ofList {α : Type} (ms : List (String × α)) : List (String × α) :=
  ms.foldl (fun acc m => insert m.1 m.2 acc) []

/-- the keys are in strictly increasing order -/
def Ordered {α : Type} (ms : List (String × α)) : Prop := ms.Pairwise fun a b => a.1 < b.1

/-- entries in the order of their keys, each with the value that was named last under its key -/
structure Settles {α : Type} (ms os : List (String × α)) : Prop where
  ordered : Ordered os
  last : ∀ key, get? key os = get? key ms.reverse

/-- the sum of numbers under keys -/
def sum : List (String × Nat) → Nat
  | [] => 0
  | (_, n) :: ms => n + sum ms

theorem get?_insert_self {α : Type} (key : String) (v : α) (ms : List (String × α)) :
    get? key (insert key v ms) = some v := by
  induction ms with
  | nil => simp [insert, get?]
  | cons m ms ih =>
    obtain ⟨k, w⟩ := m
    simp only [insert]
    split
    · simp [get?]
    · split
      · simp [get?]
      · rename_i h _
        simp [get?, Ne.symm h, ih]

theorem get?_insert_of_ne {α : Type} {key k : String} (h : k ≠ key) (v : α) (ms : List (String × α)) :
    get? k (insert key v ms) = get? k ms := by
  induction ms with
  | nil => simp [insert, get?, Ne.symm h]
  | cons m ms ih =>
    obtain ⟨k', w⟩ := m
    simp only [insert]
    split
    · rename_i hk
      subst hk
      simp [get?, Ne.symm h]
    · split
      · simp [get?, Ne.symm h]
      · simp [get?, ih]

/-- of two values put under one key the later one stays -/
theorem insert_insert {α : Type} (key : String) (v w : α) (ms : List (String × α)) :
    insert key w (insert key v ms) = insert key w ms := by
  induction ms with
  | nil => simp [insert]
  | cons m ms ih =>
    obtain ⟨k, u⟩ := m
    simp only [insert]
    split
    · simp [insert]
    · rename_i heq
      split
      · simp [insert]
      · rename_i hlt
        simp [insert, heq, hlt, ih]

theorem mem_insert {α : Type} {key : String} {v : α} {ms : List (String × α)} {m : String × α}
    (h : m ∈ insert key v ms) : m = (key, v) ∨ m ∈ ms := by
  induction ms with
  | nil => exact Or.inl (List.mem_singleton.1 h)
  | cons n ms ih =>
    simp only [insert] at h
    split at h
    · rcases List.mem_cons.1 h with h | h
      · exact Or.inl h
      · exact Or.inr (List.mem_cons_of_mem _ h)
    · split at h
      · exact List.mem_cons.1 h
      · rcases List.mem_cons.1 h with h | h
        · exact Or.inr (h ▸ List.mem_cons_self ..)
        · exact (ih h).imp_right (List.mem_cons_of_mem _)

theorem ordered_insert {α : Type} (key : String) (v : α) {ms : List (String × α)} (h : Ordered ms) :
    Ordered (insert key v ms) := by
  induction ms with
  | nil => exact List.pairwise_singleton ..
  | cons n ms ih =>
    obtain ⟨k, w⟩ := n
    obtain ⟨hk, hms⟩ := List.pairwise_cons.1 h
    simp only [insert]
    split
    · rename_i heq
      subst heq
      exact List.pairwise_cons.2 ⟨hk, hms⟩
    · rename_i hne
      split
      · rename_i hlt
        refine List.pairwise_cons.2 ⟨fun m hm => ?_, h⟩
        rcases List.mem_cons.1 hm with rfl | hm
        · exact hlt
        · exact String.lt_trans hlt (hk m hm)
      · rename_i hnlt
        refine List.pairwise_cons.2 ⟨fun m hm => ?_, ih hms⟩
        rcases mem_insert hm with rfl | hm
        · exact Std.lt_of_le_of_ne hnlt (Ne.symm hne)
        · exact hk m hm

theorem get?_eq_none_of_ne {α : Type} {key : String} {ms : List (String × α)} (h : ∀ m ∈ ms, m.1 ≠ key) :
    get? key ms = none := by
  induction ms with
  | nil => rfl
  | cons m ms ih =>
    rw [get?, if_neg (h m (List.mem_cons_self ..))]
    exact ih fun n hn => h n (List.mem_cons_of_mem _ hn)

theorem get?_eq_none_of_lt {α : Type} {key : String} {ms : List (String × α)} (h : ∀ m ∈ ms, key < m.1) :
    get? key ms = none :=
  get?_eq_none_of_ne fun m hm heq => String.lt_irrefl key (heq ▸ h m hm)

/-- a key in front of the first one is not there -/
theorem Ordered.get?_eq_none {α : Type} {key : String} {m : String × α} {ms : List (String × α)}
    (h : Ordered (m :: ms)) (hlt : key < m.1) : get? key (m :: ms) = none := by
  refine get?_eq_none_of_lt fun n hn => ?_
  rcases List.mem_cons.1 hn with rfl | hn
  · exact hlt
  · exact String.lt_trans hlt ((List.pairwise_cons.1 h).1 n hn)

/-- inserting a number adds it to the sum, and takes away the one it replaces -/
theorem sum_insert (key : String) (n : Nat) {ms : List (String × Nat)} (h : Ordered ms) :
    sum (insert key n ms) + (get? key ms).getD 0 = sum ms + n := by
  induction ms with
  | nil => simp [insert, get?, sum]
  | cons m ms ih =>
    obtain ⟨k, w⟩ := m
    obtain ⟨hk, hms⟩ := List.pairwise_cons.1 h
    simp only [insert]
    split
    · rename_i heq
      subst heq
      simp [get?, sum]
      omega
    · rename_i hne
      split
      · rename_i hlt
        simp [h.get?_eq_none hlt, sum]
        omega
      · have := ih hms
        simp only [get?, if_neg (Ne.symm hne), sum]
        omega

theorem ordered_foldl_insert {α : Type} (ms : List (String × α)) {acc : List (String × α)} (h : Ordered acc) :
    Ordered (ms.foldl (fun acc m => insert m.1 m.2 acc) acc) := by
  induction ms generalizing acc with
  | nil => exact h
  | cons m ms ih => exact ih (ordered_insert m.1 m.2 h)

theorem ordered_ofList {α : Type} (ms : List (String × α)) : Ordered (ofList ms) :=
  ordered_foldl_insert ms List.Pairwise.nil

theorem mem_of_mem_foldl_insert {α : Type} {ms acc : List (String × α)} {m : String × α}
    (h : m ∈ ms.foldl (fun acc m => insert m.1 m.2 acc) acc) : m ∈ ms ∨ m ∈ acc := by
  induction ms generalizing acc with
  | nil => exact Or.inr h
  | cons n ms ih =>
    rcases ih h with h | h
    · exact Or.inl (List.mem_cons_of_mem _ h)
    · rcases mem_insert h with rfl | h
      · exact Or.inl (List.mem_cons_self ..)
      · exact Or.inr h

theorem mem_of_mem_ofList {α : Type} {ms : List (String × α)} {m : String × α} (h : m ∈ ofList ms) : m ∈ ms :=
  (mem_of_mem_foldl_insert h).elim id fun h => absurd h List.not_mem_nil

/-- an entry behind all others goes to the end -/
theorem insert_of_last {α : Type} {key : String} (v : α) {ms : List (String × α)} (h : ∀ m ∈ ms, m.1 < key) :
    insert key v ms = ms ++ [(key, v)] := by
  induction ms with
  | nil => rfl
  | cons m ms ih =>
    have hm : m.1 < key := h m (List.mem_cons_self ..)
    have hne : key ≠ m.1 := fun heq => String.lt_irrefl key (heq ▸ hm)
    have hnlt : ¬ key < m.1 := String.lt_asymm hm
    simp [insert, hne, hnlt, ih fun n hn => h n (List.mem_cons_of_mem _ hn)]

theorem foldl_insert_of_ordered {α : Type} (ms acc : List (String × α)) (h : Ordered (acc ++ ms)) :
    ms.foldl (fun acc m => insert m.1 m.2 acc) acc = acc ++ ms := by
  induction ms generalizing acc with
  | nil => simp
  | cons m ms ih =>
    have hlast : ∀ n ∈ acc, n.1 < m.1 := fun n hn =>
      (List.pairwise_append.1 h).2.2 n hn m (List.mem_cons_self ..)
    rw [List.foldl_cons, insert_of_last m.2 hlast, ih (acc ++ [m]) (by simpa using h)]
    simp

/-- a list in order is left as it is -/
theorem ofList_of_ordered {α : Type} {ms : List (String × α)} (h : Ordered ms) : ofList ms = ms :=
  foldl_insert_of_ordered ms [] h

/-! ## The last entry of a key -/

theorem get?_append {α : Type} (key : String) (as bs : List (String × α)) :
    get? key (as ++ bs) = (get? key as).or (get? key bs) := by
  induction as with
  | nil => rfl
  | cons a as ih =>
    by_cases h : a.1 = key
    · simp [get?, h]
    · simp [get?, h, ih]

theorem get?_foldl_insert {α : Type} (key : String) (ms acc : List (String × α)) :
    get? key (ms.foldl (fun acc m => insert m.1 m.2 acc) acc) = (get? key ms.reverse).or (get? key acc) := by
  induction ms generalizing acc with
  | nil => rfl
  | cons m ms ih =>
    have hinsert : get? key (insert m.1 m.2 acc) = (get? key [m]).or (get? key acc) := by
      by_cases h : m.1 = key
      · subst h
        simp [get?, get?_insert_self]
      · simp [get?, h, get?_insert_of_ne (Ne.symm h)]
    rw [List.foldl_cons, ih, hinsert, List.reverse_cons, get?_append, Option.or_assoc]

/-- under each key stands what was named last -/
theorem get?_ofList {α : Type} (key : String) (ms : List (String × α)) :
    get? key (ofList ms) = get? key ms.reverse := by
  rw [ofList, get?_foldl_insert]
  exact Option.or_none

/-- what is found is an entry -/
theorem mem_of_get? {α : Type} {key : String} {v : α} {ms : List (String × α)} (h : get? key ms = some v) :
    (key, v) ∈ ms := by
  induction ms with
  | nil => cases h
  | cons m ms ih =>
    obtain ⟨k, w⟩ := m
    simp only [get?] at h
    split at h
    · rename_i heq
      obtain rfl := Option.some.inj h
      exact heq ▸ List.mem_cons_self ..
    · exact List.mem_cons_of_mem _ (ih h)

/-- in a list that names no key twice every entry is found -/
theorem get?_of_mem {α : Type} {key : String} {v : α} {ms : List (String × α)} (hnodup : (ms.map (·.1)).Nodup)
    (h : (key, v) ∈ ms) : get? key ms = some v := by
  induction ms with
  | nil => cases h
  | cons m ms ih =>
    obtain ⟨hm, hms⟩ := List.nodup_cons.1 hnodup
    rcases List.mem_cons.1 h with rfl | h
    · simp [get?]
    · have hne : m.1 ≠ key := fun heq => hm (List.mem_map.2 ⟨(key, v), h, heq.symm⟩)
      rw [get?, if_neg hne]
      exact ih hms h

theorem get?_ofList_of_mem {α : Type} {key : String} {v : α} {ms : List (String × α)}
    (hnodup : (ms.map (·.1)).Nodup) (h : (key, v) ∈ ms) : get? key (ofList ms) = some v := by
  have hreverse : (ms.reverse.map (·.1)).Nodup := by
    rw [List.map_reverse]
    exact List.pairwise_reverse.2 (hnodup.imp Ne.symm)
  rw [get?_ofList]
  exact get?_of_mem hreverse (List.mem_reverse.2 h)

/-- the order of entries has no part in what is found under a key, if no key comes twice -/
theorem get?_of_perm {α : Type} {key : String} {as bs : List (String × α)} (h : as.Perm bs)
    (hnodup : (as.map (·.1)).Nodup) : get? key as = get? key bs := by
  have hnodup' : (bs.map (·.1)).Nodup := (h.map (·.1)).nodup_iff.1 hnodup
  by_cases hmem : ∃ v, (key, v) ∈ as
  · obtain ⟨v, hv⟩ := hmem
    rw [get?_of_mem hnodup hv, get?_of_mem hnodup' (h.mem_iff.1 hv)]
  · have hnone : ∀ m ∈ as, m.1 ≠ key := by
      rintro ⟨k, v⟩ hm rfl
      exact hmem ⟨v, hm⟩
    rw [get?_eq_none_of_ne hnone, get?_eq_none_of_ne fun m hm => hnone m (h.mem_iff.2 hm)]

/-- entries whose keys come once are found as they stand -/
theorem get?_ofList_of_nodup {α : Type} {ms : List (String × α)} (h : (ms.map (·.1)).Nodup) (key : String) :
    get? key (ofList ms) = get? key ms := by
  rw [get?_ofList]
  exact (get?_of_perm (List.reverse_perm ms).symm h).symm

/-- entries whose keys come once are all kept -/
theorem mem_ofList_iff {α : Type} {ms : List (String × α)} (h : (ms.map (·.1)).Nodup) {m : String × α} :
    m ∈ ofList ms ↔ m ∈ ms :=
  ⟨mem_of_mem_ofList, fun hm => mem_of_get? (get?_ofList_of_mem h hm)⟩

/-- what is done to the values is done to the one under each key -/
theorem get?_map {α β : Type} (f : α → β) (key : String) (ms : List (String × α)) :
    get? key (ms.map fun m => (m.1, f m.2)) = (get? key ms).map f := by
  induction ms with
  | nil => rfl
  | cons m ms ih =>
    obtain ⟨k, v⟩ := m
    by_cases h : k = key
    · simp [get?, h]
    · simpa [get?, h] using ih

/-- lists in order with the same values under all keys are equal as data -/
theorem Ordered.eq_of_get? {α : Type} {as bs : List (String × α)} (ha : Ordered as) (hb : Ordered bs)
    (h : ∀ key, get? key as = get? key bs) : as = bs := by
  induction as generalizing bs with
  | nil =>
    cases bs with
    | nil => rfl
    | cons b bs =>
      have hfirst := h b.1
      simp [get?] at hfirst
  | cons a as ih =>
    cases bs with
    | nil =>
      have hfirst := h a.1
      simp [get?] at hfirst
    | cons b bs =>
      obtain ⟨hafter, has⟩ := List.pairwise_cons.1 ha
      obtain ⟨hbfter, hbs⟩ := List.pairwise_cons.1 hb
      obtain ⟨k, v⟩ := a
      obtain ⟨l, w⟩ := b
      have hfirst : get? k ((k, v) :: as) = some v := by simp [get?]
      have hfirst' : get? l ((l, w) :: bs) = some w := by simp [get?]
      -- a key in front of the other list's first one is found in one list only
      have hk : ¬ k < l := by
        intro hlt
        rw [h k, hb.get?_eq_none hlt] at hfirst
        cases hfirst
      have hl : ¬ l < k := by
        intro hlt
        rw [← h l, ha.get?_eq_none hlt] at hfirst'
        cases hfirst'
      obtain rfl : k = l := Decidable.byContradiction fun hne => hl (Std.lt_of_le_of_ne hk (Ne.symm hne))
      obtain rfl : v = w := Option.some.inj (hfirst.symm.trans ((h k).trans hfirst'))
      have hrest : ∀ key, get? key as = get? key bs := by
        intro key
        by_cases heq : k = key
        · subst heq
          rw [get?_eq_none_of_lt hafter, get?_eq_none_of_lt hbfter]
        · have hkey := h key
          simpa [get?, heq] using hkey
      rw [ih has hbs hrest]

theorem ofList_eq_of_settles {α : Type} {ms os : List (String × α)} (h : Settles ms os) : ofList ms = os := by
  refine (ordered_ofList ms).eq_of_get? h.ordered ?_
  intro key
  rw [get?_ofList, h.last]

theorem settles_ofList {α : Type} (ms : List (String × α)) : Settles ms (ofList ms) :=
  ⟨ordered_ofList ms, fun key => get?_ofList key ms⟩

end CredentialFailover.Keyed
