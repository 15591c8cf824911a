/-
The table that keys and a header with keys below it build.

Keys that are new go in their place, above a header into the root and below it into the header's own table; which lines stand
above or between has no part in what is found under a key, as long as no key comes twice.

Main facts: `addAll_entries` (new keys, wherever the lines put them), `ofStatements_of_header`, and
`ofStatements_header_eq_some_iff` (a key that comes twice leaves no table).
-/
import Mathlib.Tactic
import CredentialFailover.Toml.Value

namespace CredentialFailover.Toml

theorem addAll_append (d : Draft) (as bs : List Statement) :
    d.addAll (as ++ bs) = (d.addAll as).bind fun d => d.addAll bs := by
  induction as generalizing d with
  | nil => rfl
  | cons s as ih =>
    simp only [List.cons_append, Draft.addAll, ih]
    cases d.add s <;> rfl

theorem put_of_new {key : String} {t : Table} (v : Value) (h : Keyed.get? key t = none) :
    t.put key v = some (Keyed.insert key v t) := by
  simp [Table.put, h]

/-- a key that is new goes into the root, above every header -/
theorem add_above {key : String} {t : Table} (v : Value) (h : Keyed.get? key t = none) :
    (Draft.mk t []).add (.assign [] key v) = some ⟨Keyed.insert key v t, []⟩ := by
  simp [Draft.add, Table.within, Table.assign, put_of_new v h]

/-- a key that is new in the table of the header in force goes into that table -/
theorem add_below {name key : String} {root t : Table} (v : Value) (h : Keyed.get? key t = none) :
    (Draft.mk (Keyed.insert name (.table .header t) root) [name]).add (.assign [] key v) =
      some ⟨Keyed.insert name (.table .header (Keyed.insert key v t)) root, [name]⟩ := by
  simp [Draft.add, Table.within, Table.assign, entersByHeader, Keyed.get?_insert_self, put_of_new v h,
    Keyed.insert_insert]

/-- the lines of keys with their values -/
def assigns (es : List (String × Value)) : List Statement := es.map fun e => .assign [] e.1 e.2

/-- keys that are new and come once go into the table that each of them goes into -/
theorem addAll_entries (place : Table → Draft)
    (hplace : ∀ {key : String} {t : Table} (v : Value), Keyed.get? key t = none →
      (place t).add (.assign [] key v) = some (place (Keyed.insert key v t)))
    {es : List (String × Value)} {t : Table} (hnodup : (es.map (·.1)).Nodup) (hnew : ∀ e ∈ es, Keyed.get? e.1 t = none) :
    (place t).addAll (assigns es) = some (place (es.foldl (fun acc e => Keyed.insert e.1 e.2 acc) t)) := by
  induction es generalizing t with
  | nil => rfl
  | cons e es ih =>
    rw [List.map_cons, List.nodup_cons] at hnodup
    have hnew' : ∀ f ∈ es, Keyed.get? f.1 (Keyed.insert e.1 e.2 t) = none := by
      intro f hf
      have hne : f.1 ≠ e.1 := fun heq => hnodup.1 (heq ▸ List.mem_map_of_mem hf)
      exact (Keyed.get?_insert_of_ne hne e.2 t).trans (hnew f (List.mem_cons_of_mem _ hf))
    rw [assigns, List.map_cons, Draft.addAll, hplace e.2 (hnew e (List.mem_cons_self ..)), Option.bind_some]
    exact ih hnodup.2 hnew'

/-- a key that is there in the table of the header in force cannot come again -/
theorem add_below_of_present {name key : String} {root t : Table} (v : Value) (h : Keyed.get? key t ≠ none) :
    (Draft.mk (Keyed.insert name (.table .header t) root) [name]).add (.assign [] key v) = none := by
  obtain ⟨w, hw⟩ := Option.ne_none_iff_exists'.1 h
  simp [Draft.add, Table.within, Table.assign, entersByHeader, Keyed.get?_insert_self, Table.put, hw]

/-- keys for which there is room are new and come once -/
theorem new_of_addAll_entries (place : Table → Draft)
    (hplace : ∀ {key : String} {t : Table} (v : Value), Keyed.get? key t = none →
      (place t).add (.assign [] key v) = some (place (Keyed.insert key v t)))
    (hpresent : ∀ {key : String} {t : Table} (v : Value), Keyed.get? key t ≠ none →
      (place t).add (.assign [] key v) = none)
    {es : List (String × Value)} {t : Table} {d : Draft} (h : (place t).addAll (assigns es) = some d) :
    (es.map (·.1)).Nodup ∧ ∀ e ∈ es, Keyed.get? e.1 t = none := by
  induction es generalizing t with
  | nil => exact ⟨List.nodup_nil, fun _ he => absurd he List.not_mem_nil⟩
  | cons e es ih =>
    rw [assigns, List.map_cons, Draft.addAll] at h
    have hnew : Keyed.get? e.1 t = none := by
      by_contra hsome
      rw [hpresent e.2 hsome] at h
      cases h
    rw [hplace e.2 hnew] at h
    obtain ⟨hnodup, hrest⟩ := ih h
    have hne : ∀ f ∈ es, f.1 ≠ e.1 := by
      intro f hf heq
      have hnone := hrest f hf
      rw [heq, Keyed.get?_insert_self] at hnone
      cases hnone
    refine ⟨List.nodup_cons.2 ⟨fun hmem => ?_, hnodup⟩, List.forall_mem_cons.2 ⟨hnew, fun f hf => ?_⟩⟩
    · obtain ⟨f, hf, heq⟩ := List.mem_map.1 hmem
      exact hne f hf heq
    · rw [← Keyed.get?_insert_of_ne (hne f hf) e.2 t]
      exact hrest f hf

/-- **A header with keys below it, and keys above it.** Keys that come once above the header are in the root, with the table
of the keys that come once below the header beside them. -/
theorem ofStatements_of_header {name : String} {above below : List (String × Value)} (habove : (above.map (·.1)).Nodup)
    (hname : ∀ e ∈ above, e.1 ≠ name) (hbelow : (below.map (·.1)).Nodup) :
    Table.ofStatements (assigns above ++ .header [] name :: assigns below) =
      some (Keyed.insert name (.table .header (Keyed.ofList below)) (Keyed.ofList above)) := by
  have hroot : (Draft.mk [] []).addAll (assigns above) = some ⟨Keyed.ofList above, []⟩ :=
    addAll_entries (fun t => ⟨t, []⟩) add_above habove fun _ _ => rfl
  have hnew : Keyed.get? name (Keyed.ofList above) = none :=
    Keyed.get?_eq_none_of_ne fun e he => hname e (Keyed.mem_of_mem_ofList he)
  have hheader : (Draft.mk (Keyed.ofList above) []).add (.header [] name) =
      some ⟨Keyed.insert name (.table .header []) (Keyed.ofList above), [name]⟩ := by
    simp [Draft.add, Table.define, Table.within, hnew]
  have htable : (Draft.mk (Keyed.insert name (.table .header []) (Keyed.ofList above)) [name]).addAll (assigns below) =
      some ⟨Keyed.insert name (.table .header (Keyed.ofList below)) (Keyed.ofList above), [name]⟩ :=
    addAll_entries (fun t => ⟨Keyed.insert name (.table .header t) (Keyed.ofList above), [name]⟩) add_below hbelow
      fun _ _ => rfl
  simp only [Table.ofStatements, addAll_append, hroot, Draft.addAll, hheader, htable, Option.bind_some, Option.map_some]

/-- **Keys below a header come once.** A header alone with keys below it builds the table of these keys if no key comes
twice, and no table if one does. -/
theorem ofStatements_header_eq_some_iff {name : String} {below : List (String × Value)} {t : Table} :
    Table.ofStatements (.header [] name :: assigns below) = some t ↔
      (below.map (·.1)).Nodup ∧ t = [(name, .table .header (Keyed.ofList below))] := by
  constructor
  · intro h
    obtain ⟨d, hd, -⟩ := Option.map_eq_some_iff.1 h
    have hbelow : (Draft.mk (Keyed.insert name (.table .header []) []) [name]).addAll (assigns below) = some d := hd
    obtain ⟨hnodup, -⟩ := new_of_addAll_entries (fun t => ⟨Keyed.insert name (.table .header t) [], [name]⟩) add_below
      add_below_of_present hbelow
    have htable := @ofStatements_of_header name [] below .nil (by simp) hnodup
    exact ⟨hnodup, (Option.some.inj (htable.symm.trans h)).symm⟩
  · rintro ⟨hnodup, rfl⟩
    exact @ofStatements_of_header name [] below .nil (by simp) hnodup

end CredentialFailover.Toml
