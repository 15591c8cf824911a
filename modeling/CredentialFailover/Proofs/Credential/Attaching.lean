/-
Attaching a credential to header fields.

The ten values are put in place one after the other, up to the first that cannot be sent. What is in place by then is one
value under each of those names, and everything else is as it was: `put` says so in one go, without the order in which it
came about. A later credential takes the place of an earlier one, since it is put under the same names.

The ten names differ also without regard to case, so that no value takes the place of another one of the ten. The routing
number and the client time are written in digits and marks, which can always be sent.

Main facts: `apply_of_sends`, `apply_of_isFirst` (what is in place in the end), `put_put`, and `apply_puts`, the whole.
-/
import CredentialFailover.Proofs.Credential.Fields
import CredentialFailover.Proofs.Credential.Rendering
import CredentialFailover.Proofs.Http.Header

namespace CredentialFailover

namespace Field

/-- the name of a field as a collection keeps it -/
def name (f : Field) : String := Ascii.lower f.key

/-- a text is the name of a field, written in any case -/
def Names (f : Field) (s : String) : Prop := Ascii.lower s = f.name

theorem nodup_names : (all.map name).Nodup := by
  have hchars : (all.map fun f => f.key.toList.map Char.toLower).Nodup := by decide
  have hnames : (all.map name).map String.toList = all.map fun f => f.key.toList.map Char.toLower := by
    simp [name, Ascii.lower, Function.comp_def]
  exact List.Nodup.of_map String.toList (hnames ▸ hchars)

theorem name_injective : Function.Injective name := by
  intro f g h
  exact List.inj_on_of_nodup_map nodup_names f.mem_all g.mem_all h

theorem preceding_sublist (f : Field) : f.preceding.Sublist all := List.takeWhile_sublist _

theorem notMem_preceding (f : Field) : f ∉ f.preceding := fun h => by simpa using List.mem_takeWhile_imp h

end Field

namespace Credential

/-- the value of a field can be sent: every octet of it is a tab or one from the space on, but DEL -/
def Sends (c : Credential) (f : Field) : Prop := ∀ b ∈ Utf8.bytes (c.header f), b = 0x09 ∨ (0x20 ≤ b ∧ b ≠ 0x7F)

/-- the values of some fields under their names -/
def own (c : Credential) (fs : List Field) : Http.Headers := fs.map fun f => (f.name, Utf8.bytes (c.header f))

/-- header fields without those of some names -/
def without (hs : Http.Headers) (fs : List Field) : Http.Headers := hs.filter fun h => h.1 ∉ fs.map Field.name

/-- header fields with the values of some fields in place of those of the same names -/
def put (c : Credential) (fs : List Field) (hs : Http.Headers) : Http.Headers := without hs fs ++ c.own fs

/-- each of some names has the one value of its field, and every other name has the values it had -/
structure Puts (c : Credential) (fs : List Field) (hs hs' : Http.Headers) : Prop where
  put : ∀ f ∈ fs, ∀ s, f.Names s → hs'.values s = [Utf8.bytes (c.header f)]
  kept : ∀ s, (∀ f ∈ fs, ¬ f.Names s) → hs'.values s = hs.values s

theorem mem_without {hs : Http.Headers} {fs : List Field} {m : String × List UInt8} :
    m ∈ without hs fs ↔ m ∈ hs ∧ m.1 ∉ fs.map Field.name := by
  rw [without, List.mem_filter, decide_eq_true_eq]

/-! ## Values -/

theorem headerValue?_of_sends {c : Credential} {f : Field} (h : c.Sends f) :
    Http.headerValue? (c.header f) = some (Utf8.bytes (c.header f)) := by
  refine if_pos (List.all_eq_true.2 fun b hb => ?_)
  simpa [Http.isValueOctet] using h b hb

theorem headerValue?_of_not_sends {c : Credential} {f : Field} (h : ¬ c.Sends f) :
    Http.headerValue? (c.header f) = none := by
  refine if_neg fun hall => h fun b hb => ?_
  simpa [Http.isValueOctet] using List.all_eq_true.1 hall b hb

theorem sends_of_isSendable {c : Credential} {f : Field} (h : Http.IsSendable (c.header f)) : c.Sends f := by
  by_contra hnot
  have hvalue := Http.headerValue?_eq_some_iff.2 ⟨h, rfl⟩
  rw [headerValue?_of_not_sends hnot] at hvalue
  cases hvalue

theorem sends_routing (c : Credential) : c.Sends .routing := by
  have hdigit : ∀ d ∈ Nat.toDigits 10 c.routing.natAbs, 48 ≤ d.toNat ∧ d.toNat ≤ 57 :=
    fun d hd => Text.isDigit_iff.1 (Text.isDigit_of_mem_toDigits hd)
  refine sends_of_isSendable fun d hd => Or.inr ?_
  change d ∈ (toString c.routing).toList at hd
  rcases lt_or_ge c.routing 0 with hneg | hpos
  · rw [Text.toList_toString_of_neg hneg] at hd
    rcases List.mem_cons.1 hd with rfl | hd
    · decide
    · have := hdigit d hd
      omega
  · rw [Text.toList_toString_of_nonneg hpos] at hd
    have := hdigit d hd
    omega

theorem isDigit_of_mem_two {n : ℕ} {d : Char} (h : d ∈ ClientTime.two n) : d.isDigit = true := by
  simp only [ClientTime.two, List.mem_cons, List.not_mem_nil, or_false] at h
  rcases h with rfl | rfl <;> simp [Nat.isDigit_digitChar, Nat.mod_lt]

/-- a time is written in digits and four marks -/
theorem isDigit_or_mark_of_mem_chars {t : ClientTime} {d : Char} (h : d ∈ t.chars) :
    d.isDigit = true ∨ d ∈ ['-', 'T', ':', 'Z'] := by
  have hdigit : ∀ n, d ∈ ClientTime.two n → d.isDigit = true := fun n => isDigit_of_mem_two
  simp only [ClientTime.chars, ClientTime.four, List.mem_append, List.mem_cons, List.not_mem_nil, or_false] at h ⊢
  grind

theorem sends_clientTime (c : Credential) : c.Sends .clientTime := by
  have hmarks : ∀ d ∈ ['-', 'T', ':', 'Z'], 0x20 ≤ d.toNat ∧ d.toNat ≠ 0x7F := by simp
  refine sends_of_isSendable fun d hd => Or.inr ?_
  have hchars : d ∈ c.clientTime.chars := by simpa [header, ClientTime.text] using hd
  rcases isDigit_or_mark_of_mem_chars hchars with hdigit | hmark
  · have := Text.isDigit_iff.1 hdigit
    omega
  · exact hmarks d hmark

/-! ## Putting -/

/-- one field put in place, and then others -/
theorem put_set (c : Credential) {f : Field} {fs : List Field} (h : f ∉ fs) (hs : Http.Headers) :
    c.put fs (hs.set f.key (Utf8.bytes (c.header f))) = c.put (f :: fs) hs := by
  have hname : f.name ∉ fs.map Field.name := by
    simpa [Field.name_injective.eq_iff] using h
  have herase : without (hs.erase f.key) fs = without hs (f :: fs) := by
    simp only [without, Http.Headers.erase, List.filter_filter]
    refine List.filter_congr fun m _ => ?_
    simp [Field.name, Bool.and_comm, bne, beq_eq_decide]
  have hown : without [(f.name, Utf8.bytes (c.header f))] fs = [(f.name, Utf8.bytes (c.header f))] :=
    List.filter_eq_self.2 (by simpa using hname)
  calc c.put fs (hs.set f.key (Utf8.bytes (c.header f)))
      = without (hs.erase f.key) fs ++ without [(f.name, Utf8.bytes (c.header f))] fs ++ c.own fs := by
        simp only [put, without, Http.Headers.set, Http.Headers.append, List.filter_append, Field.name]
    _ = c.put (f :: fs) hs := by
        rw [herase, hown, List.append_assoc]
        rfl

/-- fields that can be sent are put in place, and then the others are gone through -/
theorem applyFields_append (c : Credential) {fs : List Field} (hsends : ∀ f ∈ fs, c.Sends f) (hnodup : fs.Nodup)
    (rest : List Field) (hs : Http.Headers) : c.applyFields (fs ++ rest) hs = c.applyFields rest (c.put fs hs) := by
  induction fs generalizing hs with
  | nil => simp [put, without, own]
  | cons f fs ih =>
    obtain ⟨hf, hfs⟩ := List.nodup_cons.1 hnodup
    have hvalue := headerValue?_of_sends (hsends f (List.mem_cons_self ..))
    simp only [List.cons_append, applyFields, hvalue]
    rw [ih (fun g hg => hsends g (List.mem_cons_of_mem _ hg)) hfs, put_set c hf]

theorem apply_of_sends {c : Credential} (h : ∀ f, c.Sends f) (hs : Http.Headers) :
    c.apply hs = (c.put Field.all hs, .ok ()) := by
  have happend := c.applyFields_append (fun f _ => h f) Field.nodup_all [] hs
  rw [List.append_nil] at happend
  exact happend

theorem apply_of_isFirst {c : Credential} {f : Field} (h : f.IsFirst fun g => ¬ c.Sends g) (hs : Http.Headers) :
    c.apply hs =
      (c.put f.preceding hs, .error (.invalidField f.key ("not a valid header value: " ++ Http.badValueReason))) := by
  obtain ⟨after, hall⟩ := f.exists_all_eq
  have hnodup : f.preceding.Nodup := Field.nodup_all.sublist f.preceding_sublist
  rw [apply, hall, c.applyFields_append (fun g hg => not_not.1 (h.before g hg)) hnodup, applyFields,
    headerValue?_of_not_sends h.holds]

/-! ## What is in place -/

theorem values_own (c : Credential) {fs : List Field} (hnodup : fs.Nodup) {f : Field} (hf : f ∈ fs) :
    (c.own fs).filter (fun m => m.1 == f.name) = [(f.name, Utf8.bytes (c.header f))] := by
  have hone : fs.filter (fun g => g.name == f.name) = [f] := by
    have hsame : ∀ g ∈ fs, (g.name == f.name) = (g == f) := fun g _ => by
      simp [beq_eq_decide, Field.name_injective.eq_iff]
    rw [List.filter_congr hsame, List.filter_beq, List.count_eq_one_of_mem hnodup hf]
    rfl
  rw [own, List.filter_map]
  exact congrArg (List.map fun g => (g.name, Utf8.bytes (c.header g))) hone

theorem puts_put (c : Credential) {fs : List Field} (hnodup : fs.Nodup) (hs : Http.Headers) :
    c.Puts fs hs (c.put fs hs) where
  put := by
    intro f hf s hname
    have hwithout : (without hs fs).filter (fun m => m.1 == f.name) = [] := by
      refine List.filter_eq_nil_iff.2 fun m hm heq => ?_
      exact (mem_without.1 hm).2 (List.mem_map.2 ⟨f, hf, (beq_iff_eq.1 heq).symm⟩)
    rw [Http.Headers.values, hname, put, List.filter_append, hwithout, c.values_own hnodup hf]
    rfl
  kept := by
    intro s hother
    have hwithout : (without hs fs).filter (fun m => m.1 == Ascii.lower s) = hs.filter fun m => m.1 == Ascii.lower s := by
      rw [without, List.filter_filter]
      refine List.filter_congr fun m _ => ?_
      by_cases hm : m.1 = Ascii.lower s
      · have hnot : m.1 ∉ fs.map Field.name := by
          rintro hmem
          obtain ⟨f, hf, hname⟩ := List.mem_map.1 hmem
          exact hother f hf (hname.trans hm).symm
        simp [hm, hm ▸ hnot]
      · simp [hm]
    have hown : (c.own fs).filter (fun m => m.1 == Ascii.lower s) = [] := by
      refine List.filter_eq_nil_iff.2 fun m hm heq => ?_
      obtain ⟨f, hf, rfl⟩ := List.mem_map.1 hm
      exact hother f hf (beq_iff_eq.1 heq).symm
    rw [Http.Headers.values, Http.Headers.values, put, List.filter_append, hwithout, hown, List.append_nil]

/-- fields put in place of earlier ones of the same names -/
theorem put_put (c c' : Credential) {fs fs' : List Field} (h : fs ⊆ fs') (hs : Http.Headers) :
    c'.put fs' (c.put fs hs) = c'.put fs' hs := by
  have hown : without (c.own fs) fs' = [] := by
    refine List.filter_eq_nil_iff.2 fun m hm hnot => of_decide_eq_true hnot ?_
    obtain ⟨f, hf, rfl⟩ := List.mem_map.1 hm
    exact List.mem_map_of_mem (h hf)
  have hwithout : without (without hs fs) fs' = without hs fs' := by
    rw [without, without, without, List.filter_filter]
    refine List.filter_congr fun m _ => ?_
    by_cases hm : m.1 ∈ fs.map Field.name
    · simp [hm, List.map_subset Field.name h hm]
    · simp [hm]
  calc c'.put fs' (c.put fs hs) = without (without hs fs) fs' ++ without (c.own fs) fs' ++ c'.own fs' := by
        simp only [put, without, List.filter_append]
    _ = c'.put fs' hs := by rw [hown, hwithout, List.append_nil, put]

/-- what comes of a credential: all its values can be sent, or there is a first one that cannot -/
theorem sends_or_isFirst (c : Credential) : (∀ f, c.Sends f) ∨ ∃ f : Field, f.IsFirst fun g => ¬ c.Sends g := by
  by_cases h : ∀ f, c.Sends f
  · exact Or.inl h
  · obtain ⟨f, hf⟩ := not_forall.1 h
    exact Or.inr (Field.exists_isFirst hf)

/-- a credential takes the place of an earlier one, wherever that one has stopped -/
theorem apply_apply_of_sends {c' : Credential} (h : ∀ f, c'.Sends f) (c : Credential) (hs : Http.Headers) :
    c'.apply (c.apply hs).1 = c'.apply hs := by
  rcases c.sends_or_isFirst with hc | ⟨f, hfirst⟩
  · rw [apply_of_sends hc, apply_of_sends h, apply_of_sends h, put_put c c' (List.Subset.refl _)]
  · rw [apply_of_isFirst hfirst, apply_of_sends h, apply_of_sends h, put_put c c' f.preceding_sublist.subset]

/-- attaching a credential again changes nothing, also if it stops on the way -/
theorem apply_apply_self (c : Credential) (hs : Http.Headers) : c.apply (c.apply hs).1 = c.apply hs := by
  rcases c.sends_or_isFirst with hc | ⟨f, hfirst⟩
  · exact apply_apply_of_sends hc c hs
  · rw [apply_of_isFirst hfirst, apply_of_isFirst hfirst, put_put c c (List.Subset.refl _)]

/-- **Attaching a credential replaces what it can.** If all ten values can be sent, each of the ten names has that one value
afterwards, and every other name what it had. Otherwise the first field whose value cannot be sent is at fault, and just
the names before it have been given their one value: its own name and all others have what they had. Attaching the same
credential again changes nothing, and attaching one after another is attaching the later one. The routing number and the
client time are never at fault. -/
theorem apply_puts :
    (∀ (c : Credential) (hs : Http.Headers), (∀ f, c.Sends f) →
      (c.apply hs).2 = .ok () ∧ c.Puts Field.all hs (c.apply hs).1) ∧
    (∀ (c : Credential) (hs : Http.Headers) (f : Field), f.IsFirst (fun g => ¬ c.Sends g) →
      (c.apply hs).2 = .error (.invalidField f.key ("not a valid header value: " ++ Http.badValueReason)) ∧
        c.Puts f.preceding hs (c.apply hs).1 ∧ f ∉ f.preceding ∧
        ∀ g ∉ f.preceding, ∀ s, g.Names s → (c.apply hs).1.values s = hs.values s) ∧
    (∀ c : Credential, (∀ f, c.Sends f) ∨ ∃ f : Field, f.IsFirst fun g => ¬ c.Sends g) ∧
    (∀ (c : Credential) (hs : Http.Headers), c.apply (c.apply hs).1 = c.apply hs) ∧
    (∀ (c c' : Credential) (hs : Http.Headers), (∀ f, c'.Sends f) → c'.apply (c.apply hs).1 = c'.apply hs) ∧
    (∀ c : Credential, c.Sends .routing ∧ c.Sends .clientTime) := by
  refine ⟨?_, ?_, sends_or_isFirst, apply_apply_self, ?_, ?_⟩
  · intro c hs h
    rw [apply_of_sends h]
    exact ⟨rfl, c.puts_put Field.nodup_all hs⟩
  · intro c hs f hfirst
    have hputs : c.Puts f.preceding hs (c.apply hs).1 := by
      rw [apply_of_isFirst hfirst]
      exact c.puts_put (Field.nodup_all.sublist f.preceding_sublist) hs
    refine ⟨by rw [apply_of_isFirst hfirst], hputs, f.notMem_preceding, ?_⟩
    intro g hg s hname
    refine hputs.kept s fun k hk hnames => hg ?_
    obtain rfl : k = g := Field.name_injective (hnames.symm.trans hname)
    exact hk
  · intro c c' hs h
    exact apply_apply_of_sends h c hs
  · intro c
    exact ⟨c.sends_routing, c.sends_clientTime⟩

/-- fields of an earlier credential, two of them twice, and one that is none of the ten -/
def earlier : Http.Headers :=
  [("x-apple-i-md-m", Utf8.bytes "1"), ("accept", Utf8.bytes "*/*"), ("x-apple-i-md", Utf8.bytes "2"),
    ("x-apple-i-md-m", Utf8.bytes "3"), ("x-apple-i-md", Utf8.bytes "4")]

/-- the sample with a password that can be sent -/
def sendable : Credential := { sample with oneTimePassword := ⟨"o"⟩ }

theorem apply_puts_sample :
    (sample.apply earlier).2 =
        .error (.invalidField "X-Apple-I-MD" "not a valid header value: failed to parse header value") ∧
      (sample.apply earlier).1.values "X-APPLE-I-MD-M" = [Utf8.bytes "a\"b\\c/d"] ∧
      (sample.apply earlier).1.values "X-Apple-I-MD" = earlier.values "X-Apple-I-MD" ∧
      ((sendable.apply earlier).2 = .ok () ∧ sendable.apply (sample.apply earlier).1 = sendable.apply earlier) := by
  obtain ⟨hall, hfirst, -, -, hlater, hroutingTime⟩ := apply_puts
  have hstops : Field.IsFirst (fun g => ¬ sample.Sends g) .oneTimePassword := by
    refine ⟨fun h => absurd (h 0x00 (by decide)) (by decide), ?_⟩
    intro g hg
    obtain rfl : g = .machineId := by simpa [Field.preceding, Field.all] using hg
    exact not_not.2 (sends_of_isSendable (by decide))
  have hsends : ∀ f, sendable.Sends f := by
    intro f
    cases f with
    | routing => exact (hroutingTime sendable).1
    | clientTime => exact (hroutingTime sendable).2
    | _ => exact sends_of_isSendable (by decide)
  obtain ⟨hfault, hputs, hnot, hkept⟩ := hfirst sample earlier .oneTimePassword hstops
  have hname : Field.Names .machineId "X-APPLE-I-MD-M" := by
    rw [Field.Names, Field.name, Ascii.lower, Ascii.lower, ← String.toList_inj, String.toList_map, String.toList_map]
    decide
  refine ⟨hfault, hputs.put .machineId (by decide) _ hname, hkept .oneTimePassword hnot _ rfl, ?_⟩
  exact ⟨(hall sendable earlier hsends).1, hlater sample sendable earlier hsends⟩

end Credential

end CredentialFailover
