/-
Which entries a settings file states.

The table `anisette` may be left out or be a date or time, and then states none of the four; it may be a table, which states
what stands under their keys; or a list, which states what stands at their places. A text is stated by a text only, and the
timeout by an integer of at most 64 bits. Everything else is passed over, as long as its numbers can be represented: integers
have at most 128 bits with their sign, and other numbers round to a finite binary64 value.

`Writes` says this of the lines below a header, without a reader.

Main facts: `canSkip_iff` (what is passed over), `ofTable_eq_some_iff` (the settings of a table are those that it states),
`says_iff_writes` (so are those of lines below a header).
-/
import CredentialFailover.Proofs.Settings.Precedence
import CredentialFailover.Proofs.Toml.Lines
import CredentialFailover.Proofs.Toml.Tables

namespace CredentialFailover.Settings

/-! ## What is stated -/

/-- the entries that a file states, each of which may be left out -/
structure Stated where
  servers : Option String
  server : Option String
  timeout : Option ℕ
  userAgent : Option String

/-- the keys of all entries -/
def keys : List String := ["servers", "server", "timeout_secs", "user_agent"]

/-- what is stated under a name -/
def Stated.value (c : Stated) : Name → Option Toml.Value
  | .servers => c.servers.map .text
  | .server => c.server.map .text
  | .timeout => c.timeout.map fun n : ℕ => .integer n
  | .userAgent => c.userAgent.map .text

/-- the settings in which what is left out has its default -/
def Stated.settings (c : Stated) : Settings := ⟨c.servers, c.server, c.timeout.getD 10, c.userAgent.getD "Xcode"⟩

/-- what is stated passes the checks: no timeout of zero, no user agent of blanks -/
structure Stated.Passes (c : Stated) : Prop where
  timeout : c.timeout ≠ some 0
  userAgent : ∀ s ∈ c.userAgent, ∃ a ∈ s.toList, Text.isBlank a = false

/-- what is stated makes settings that pass the checks just if it is no timeout of zero and no user agent of blanks -/
theorem passes_settings_iff {c : Stated} : c.settings.Passes ↔ c.Passes := by
  have htimeout : c.timeout.getD 10 ≠ 0 ↔ c.timeout ≠ some 0 := by cases c.timeout <;> simp
  have hagent : (∃ a ∈ (c.userAgent.getD "Xcode").toList, Text.isBlank a = false) ↔
      ∀ s ∈ c.userAgent, ∃ a ∈ s.toList, Text.isBlank a = false := by
    cases c.userAgent with
    | none => exact iff_of_true ⟨'X', by decide, by decide⟩ (by simp)
    | some s => simp
  exact ⟨fun h => ⟨htimeout.1 h.timeout_ne, hagent.1 h.userAgent⟩, fun h => ⟨htimeout.2 h.timeout, hagent.2 h.userAgent⟩⟩

/-! ## What is passed over -/

/-- values that can be passed over -/
inductive Passable : Toml.Value → Prop where
  | text (s : String) : Passable (.text s)
  | integer {n : ℤ} (hleast : -2 ^ 127 ≤ n) (hmost : n < 2 ^ 128) : Passable (.integer n)
  | decimal {significand exponent : ℤ} (hsize : |(significand : ℚ)| * 10 ^ exponent < (2 ^ 54 - 1) * 2 ^ 970) :
    Passable (.decimal significand exponent)
  | nonFinite : Passable .nonFinite
  | boolean (b : Bool) : Passable (.boolean b)
  | moment : Passable .moment
  | list {ofTables : Bool} {items : List Toml.Value} (hitems : ∀ v ∈ items, Passable v) : Passable (.list ofTables items)
  | table {origin : Toml.Origin} {entries : Toml.Table} (hentries : ∀ e ∈ entries, Passable e.2) :
    Passable (.table origin entries)

/-- all entries of a table but those under some names can be passed over -/
def PassesBut (names : List String) (t : Toml.Table) : Prop := ∀ e ∈ t, e.1 ∉ names → Passable e.2

theorem isRepresentable_iff {n : ℤ} : isRepresentable n = true ↔ -2 ^ 127 ≤ n ∧ n < 2 ^ 128 := by
  simp only [isRepresentable, Bool.and_eq_true, decide_eq_true_eq]
  omega

/-- a power of ten, on the side of a comparison where its exponent is natural -/
theorem mul_zpow_lt_iff {a b : ℚ} {e : ℤ} : a * 10 ^ e < b ↔ a * 10 ^ e.toNat < b * 10 ^ (-e).toNat := by
  obtain ⟨n, rfl | rfl⟩ := e.eq_nat_or_neg
  · simp
  · have hpos : (0 : ℚ) < 10 ^ n := by positivity
    rw [zpow_neg, zpow_natCast, ← div_eq_mul_inv, div_lt_iff₀ hpos]
    simp

/-- a number is below the power of ten that has one digit more -/
theorem lt_pow_length_toDigits (n : ℕ) : n < 10 ^ (Nat.toDigits 10 n).length :=
  (Nat.length_toDigits_le_iff (by decide) Nat.length_toDigits_pos).1 le_rfl

/-- a positive number is not below the power of ten that has as many digits -/
theorem pow_length_toDigits_le {n : ℕ} (h : 0 < n) : 10 ^ ((Nat.toDigits 10 n).length - 1) ≤ n := by
  by_contra hlt
  rcases Nat.eq_zero_or_pos ((Nat.toDigits 10 n).length - 1) with hzero | hpos
  · rw [hzero] at hlt
    omega
  · have hle := (Nat.length_toDigits_le_iff (by decide) hpos).2 (not_le.1 hlt)
    omega

/-- the midpoint after the greatest finite value has at most four hundred digits -/
theorem midpoint_le : ((2 : ℚ) ^ 54 - 1) * 2 ^ 970 ≤ 10 ^ 400 :=
  calc ((2 : ℚ) ^ 54 - 1) * 2 ^ 970 ≤ 2 ^ 54 * 2 ^ 970 := by gcongr; norm_num
    _ = (2 ^ 8) ^ 128 := by rw [← pow_add, ← pow_mul]
    _ ≤ (10 ^ 3) ^ 128 := by gcongr; norm_num
    _ = 10 ^ 384 := (pow_mul ..).symm
    _ ≤ 10 ^ 400 := pow_le_pow_right₀ (by norm_num) (by norm_num)

/-- a number that is looked at digit by digit rounds to a finite value if it is below the midpoint after the greatest one -/
theorem isFinite_iff {significand exponent : ℤ} :
    isFinite significand exponent = true ↔ |(significand : ℚ)| * 10 ^ exponent < (2 ^ 54 - 1) * 2 ^ 970 := by
  have hsize : |(significand : ℚ)| = (significand.natAbs : ℚ) := by rw [Nat.cast_natAbs, Int.cast_abs]
  rw [hsize, isFinite]
  generalize significand.natAbs = size
  have hten : (1 : ℚ) ≤ 10 := by norm_num
  set length := (Nat.toDigits 10 size).length with hlength
  have hscale : ∀ n : ℕ, (10 : ℚ) ^ n * 10 ^ exponent = 10 ^ (n + exponent) := fun n => by
    rw [zpow_add₀ (by norm_num), zpow_natCast]
  have hexponent : (0 : ℚ) < 10 ^ exponent := by positivity
  dsimp only
  split_ifs with hsmall hlarge
  · refine iff_of_true rfl ?_
    have hone : (size : ℚ) * 10 ^ exponent ≤ 1 := by
      rcases hsmall with rfl | hpoint
      · simp
      · have hlt : (size : ℚ) ≤ 10 ^ length := mod_cast (lt_pow_length_toDigits size).le
        calc (size : ℚ) * 10 ^ exponent ≤ 10 ^ length * 10 ^ exponent := by gcongr
          _ = 10 ^ (length + exponent) := hscale length
          _ ≤ 1 := zpow_le_one_of_nonpos₀ hten hpoint.le
    exact hone.trans_lt (one_lt_mul_of_lt_of_le (by norm_num) (one_le_pow₀ (by norm_num)))
  · refine iff_of_false id (not_lt.2 ?_)
    have hpos : 0 < size := by omega
    have hle : (10 : ℚ) ^ (length - 1) ≤ size := mod_cast pow_length_toDigits_le hpos
    calc ((2 : ℚ) ^ 54 - 1) * 2 ^ 970 ≤ 10 ^ (400 : ℤ) := midpoint_le
      _ ≤ 10 ^ (((length - 1 : ℕ) : ℤ) + exponent) := zpow_le_zpow_right₀ hten (by omega)
      _ = 10 ^ (length - 1) * 10 ^ exponent := (hscale _).symm
      _ ≤ size * 10 ^ exponent := by gcongr
  · have hbound : ∀ n : ℕ, (((2 * (1 <<< 53) - 1) * (1 <<< n) : ℕ) : ℚ) = (2 ^ 54 - 1) * 2 ^ n := fun n => by
      rw [Nat.one_shiftLeft, Nat.one_shiftLeft, Nat.cast_mul, Nat.cast_sub (by decide)]
      push_cast
      ring
    rw [mul_zpow_lt_iff, decide_eq_true_eq, ← hbound 970]
    norm_cast

theorem canSkipEntries_iff {es : List (String × Toml.Value)} : canSkipEntries es = true ↔ ∀ e ∈ es, canSkip e.2 = true := by
  induction es with
  | nil => simp [canSkipEntries]
  | cons e es ih => simp [canSkipEntries, ih]

theorem canSkipItems_iff {vs : List Toml.Value} : canSkipItems vs = true ↔ ∀ v ∈ vs, canSkip v = true := by
  induction vs with
  | nil => simp [canSkipItems]
  | cons v vs ih => simp [canSkipItems, ih]

/-- what is passed over is told by the values that a value holds -/
theorem canSkip_iff (v : Toml.Value) : canSkip v = true ↔ Passable v := by
  match v with
  | .text s => exact iff_of_true rfl (.text s)
  | .nonFinite => exact iff_of_true rfl .nonFinite
  | .boolean b => exact iff_of_true rfl (.boolean b)
  | .moment => exact iff_of_true rfl .moment
  | .integer n =>
    rw [canSkip, isRepresentable_iff]
    exact ⟨fun h => .integer h.1 h.2, fun h => by cases h with | integer hleast hmost => exact ⟨hleast, hmost⟩⟩
  | .decimal significand exponent =>
    rw [canSkip, isFinite_iff]
    exact ⟨.decimal, fun h => by cases h with | decimal hsize => exact hsize⟩
  | .list ofTables items =>
    have hitems : (∀ v ∈ items, canSkip v = true) ↔ ∀ v ∈ items, Passable v := forall₂_congr fun v hv => canSkip_iff v
    rw [canSkip, canSkipItems_iff, hitems]
    exact ⟨.list, fun h => by cases h with | list hitems => exact hitems⟩
  | .table origin entries =>
    have hentries : (∀ e ∈ entries, canSkip e.2 = true) ↔ ∀ e ∈ entries, Passable e.2 :=
      forall₂_congr fun e he => canSkip_iff e.2
    rw [canSkip, canSkipEntries_iff, hentries]
    exact ⟨.table, fun h => by cases h with | table hentries => exact hentries⟩
termination_by sizeOf v
decreasing_by
  · have := List.sizeOf_lt_of_mem hv
    simp only [Toml.Value.list.sizeOf_spec]
    omega
  · obtain ⟨key, v⟩ := e
    have := List.sizeOf_lt_of_mem he
    simp only [Toml.Value.table.sizeOf_spec, Prod.mk.sizeOf_spec] at this ⊢
    omega

theorem passesBut_iff {names : List String} {t : Toml.Table} :
    canSkipEntries (others names t) = true ↔ PassesBut names t := by
  rw [canSkipEntries_iff]
  simp only [others, List.mem_filter, Bool.not_eq_true', List.contains_eq_mem, decide_eq_false_iff_not, canSkip_iff,
    PassesBut, and_imp]

/-! ## What a table states -/

/-- what stands under `anisette` states entries -/
inductive StatesUnder (c : Stated) : Option Toml.Value → Prop where
  | nothing (hvalue : ∀ name, c.value name = none) : StatesUnder c none
  | moment (hvalue : ∀ name, c.value name = none) : StatesUnder c (some .moment)
  | table {origin : Toml.Origin} {sub : Toml.Table} (hother : PassesBut keys sub)
    (hvalue : ∀ name, Keyed.get? name.key sub = c.value name) : StatesUnder c (some (.table origin sub))
  | list {ofTables : Bool} {items : List Toml.Value} (hvalue : ∀ name, items[name.place]? = c.value name) :
    StatesUnder c (some (.list ofTables items))

/-- a table states entries: it has them under `anisette`, and nothing else that cannot be passed over -/
structure States (t : Toml.Table) (c : Stated) : Prop where
  other : PassesBut ["anisette"] t
  entries : StatesUnder c (Keyed.get? "anisette" t)
  timeout : ∀ n ∈ c.timeout, n < 2 ^ 64

theorem optionalText_eq_some_iff {o : Option Toml.Value} {t : Option String} :
    optionalText o = some t ↔ o = t.map .text := by
  constructor
  · intro h
    unfold optionalText at h
    split at h
    · obtain rfl := Option.some.inj h
      rfl
    · obtain rfl := Option.some.inj h
      rfl
    · cases h
  · rintro rfl
    cases t <;> rfl

theorem userAgentOf_eq_some_iff {o : Option Toml.Value} {agent : String} :
    userAgentOf o = some agent ↔ ∃ t : Option String, o = t.map .text ∧ t.getD "Xcode" = agent := by
  constructor
  · intro h
    unfold userAgentOf at h
    split at h
    · exact ⟨none, rfl, Option.some.inj h⟩
    · exact ⟨some _, rfl, Option.some.inj h⟩
    · cases h
  · rintro ⟨t, rfl, rfl⟩
    cases t <;> rfl

theorem timeoutOf_eq_some_iff {o : Option Toml.Value} {timeout : ℕ} :
    timeoutOf o = some timeout ↔
      ∃ t : Option ℕ, o = (t.map fun n : ℕ => .integer n) ∧ (∀ n ∈ t, n < 2 ^ 64) ∧ t.getD 10 = timeout := by
  constructor
  · intro h
    unfold timeoutOf at h
    split at h
    · exact ⟨none, rfl, by simp, Option.some.inj h⟩
    · rename_i n
      split_ifs at h with hrange
      obtain ⟨m, rfl⟩ := Int.eq_ofNat_of_zero_le hrange.1
      refine ⟨some m, rfl, ?_, Option.some.inj h⟩
      intro k hk
      obtain rfl := Option.some.inj hk
      have hmost := hrange.2
      rw [maxTimeout] at hmost
      omega
    · cases h
  · rintro ⟨t, rfl, hrange, rfl⟩
    cases t with
    | none => rfl
    | some n =>
      have hmost : (n : ℤ) ≤ maxTimeout := by
        have hlt := hrange n rfl
        rw [maxTimeout]
        omega
      simp [timeoutOf, hmost]

/-- four entries make settings if they are stated -/
theorem ofEntries_eq_some_iff {entry : Name → Option Toml.Value} {s : Settings} :
    ofEntries entry = some s ↔
      ∃ c : Stated, (∀ name, entry name = c.value name) ∧ (∀ n ∈ c.timeout, n < 2 ^ 64) ∧ c.settings = s := by
  constructor
  · intro h
    simp only [ofEntries, Option.bind_eq_bind, Option.bind_eq_some_iff] at h
    obtain ⟨servers, hservers, server, hserver, timeout, htimeout, agent, hagent, hs⟩ := h
    rw [optionalText_eq_some_iff] at hservers hserver
    obtain ⟨t, hentry, hrange, rfl⟩ := timeoutOf_eq_some_iff.1 htimeout
    obtain ⟨a, hname, rfl⟩ := userAgentOf_eq_some_iff.1 hagent
    refine ⟨⟨servers, server, t, a⟩, fun name => ?_, hrange, Option.some.inj hs⟩
    cases name with
    | servers => exact hservers
    | server => exact hserver
    | timeout => exact hentry
    | userAgent => exact hname
  · rintro ⟨c, hvalue, hrange, rfl⟩
    have hservers := optionalText_eq_some_iff.2 (hvalue .servers)
    have hserver := optionalText_eq_some_iff.2 (hvalue .server)
    have htimeout := timeoutOf_eq_some_iff.2 ⟨c.timeout, hvalue .timeout, hrange, rfl⟩
    have hagent := userAgentOf_eq_some_iff.2 ⟨c.userAgent, hvalue .userAgent, rfl⟩
    simp only [ofEntries, hservers, hserver, htimeout, hagent]
    rfl

/-- what states nothing has the settings of an absent file -/
theorem settings_of_nothing {c : Stated} (h : ∀ name, c.value name = none) : c.settings = default := by
  have hservers : c.servers = none := by simpa [Stated.value] using h .servers
  have hserver : c.server = none := by simpa [Stated.value] using h .server
  have htimeout : c.timeout = none := by simpa [Stated.value] using h .timeout
  have hagent : c.userAgent = none := by simpa [Stated.value] using h .userAgent
  rw [Stated.settings, hservers, hserver, htimeout, hagent]
  rfl

theorem ofValue_eq_some_iff {v : Toml.Value} {s : Settings} :
    ofValue v = some s ↔ ∃ c : Stated, StatesUnder c (some v) ∧ (∀ n ∈ c.timeout, n < 2 ^ 64) ∧ c.settings = s := by
  constructor
  · intro h
    unfold ofValue at h
    split at h
    · split_ifs at h with hskip
      obtain ⟨c, hvalue, hrange, hs⟩ := ofEntries_eq_some_iff.1 h
      exact ⟨c, .table (passesBut_iff.1 hskip) hvalue, hrange, hs⟩
    · obtain ⟨c, hvalue, hrange, hs⟩ := ofEntries_eq_some_iff.1 h
      exact ⟨c, .list hvalue, hrange, hs⟩
    · exact ⟨⟨none, none, none, none⟩, .moment fun name => by cases name <;> rfl, by simp, Option.some.inj h⟩
    · cases h
  · rintro ⟨c, hstates, hrange, rfl⟩
    cases hstates with
    | moment hvalue => rw [settings_of_nothing hvalue, ofValue]
    | @table _ sub hother hvalue =>
      have hskip : canSkipEntries (others (Name.all.map Name.key) sub) = true := passesBut_iff.2 hother
      rw [ofValue, if_pos hskip]
      exact ofEntries_eq_some_iff.2 ⟨c, hvalue, hrange, rfl⟩
    | list hvalue => exact ofEntries_eq_some_iff.2 ⟨c, hvalue, hrange, rfl⟩

/-- **The settings of a table are those that it states.** -/
theorem ofTable_eq_some_iff {t : Toml.Table} {s : Settings} :
    ofTable t = some s ↔ ∃ c : Stated, States t c ∧ c.settings = s := by
  constructor
  · intro h
    unfold ofTable at h
    split_ifs at h with hskip
    have hother := passesBut_iff.1 hskip
    split at h
    · rename_i hget
      have hnothing : StatesUnder ⟨none, none, none, none⟩ (Keyed.get? "anisette" t) :=
        hget ▸ .nothing fun name => by cases name <;> rfl
      exact ⟨_, ⟨hother, hnothing, by simp⟩, Option.some.inj h⟩
    · rename_i v hget
      obtain ⟨c, hstates, hrange, hs⟩ := ofValue_eq_some_iff.1 h
      exact ⟨c, ⟨hother, hget ▸ hstates, hrange⟩, hs⟩
  · rintro ⟨c, ⟨hother, hstates, hrange⟩, rfl⟩
    have hskip : canSkipEntries (others [tableName] t) = true := passesBut_iff.2 hother
    rw [ofTable, if_pos hskip]
    cases hget : Keyed.get? tableName t with
    | none =>
      rw [← tableName, hget] at hstates
      cases hstates with
      | nothing hvalue => rw [settings_of_nothing hvalue]
    | some v =>
      rw [← tableName, hget] at hstates
      exact ofValue_eq_some_iff.2 ⟨c, hstates, hrange, rfl⟩

/-! ## What a text says -/

/-- a text states entries: so does the table that it writes -/
def Says (text : String) (c : Stated) : Prop := ∃ table, Toml.parse text = some table ∧ States table c

/-- lines below the header `anisette` state entries -/
structure Writes (below : List (String × Toml.Value)) (c : Stated) : Prop where
  once : (below.map (·.1)).Nodup
  other : PassesBut keys below
  value : ∀ name : Name, Keyed.get? name.key below = c.value name
  timeout : ∀ n ∈ c.timeout, n < 2 ^ 64

/-- **Lines say what they write.** What a file of the header and lines below it states is told by the lines, without a
reader: no key comes twice, what stands under the keys of the entries is stated, and the rest can be passed over. -/
theorem says_iff_writes {text : String} {below : List (String × Toml.Value)} {c : Stated}
    (htext : Toml.FileSpelling (.header [] "anisette" :: Toml.assigns below) text.toList) :
    Says text c ↔ Writes below c := by
  have hparse : ∀ table, Toml.parse text = some table ↔
      (below.map (·.1)).Nodup ∧ table = [("anisette", .table .header (Keyed.ofList below))] := fun table => by
    rw [Toml.parse_of_spelling htext, Toml.ofStatements_header_eq_some_iff]
  have hstates : (below.map (·.1)).Nodup →
      (States [("anisette", .table .header (Keyed.ofList below))] c ↔
        PassesBut keys below ∧ (∀ name : Name, Keyed.get? name.key below = c.value name) ∧ ∀ n ∈ c.timeout, n < 2 ^ 64) := by
    intro honce
    have hpasses : PassesBut keys (Keyed.ofList below) ↔ PassesBut keys below :=
      forall_congr' fun e => by rw [Keyed.mem_ofList_iff honce]
    constructor
    · rintro ⟨-, hentries, htimeout⟩
      rw [Keyed.get?, if_pos rfl] at hentries
      cases hentries with
      | table hother hvalue =>
        refine ⟨hpasses.1 hother, fun name => ?_, htimeout⟩
        rw [← hvalue name, Keyed.get?_ofList_of_nodup honce]
    · rintro ⟨hother, hvalue, htimeout⟩
      refine ⟨by simp [PassesBut], ?_, htimeout⟩
      rw [Keyed.get?, if_pos rfl]
      exact .table (hpasses.2 hother) fun name => (Keyed.get?_ofList_of_nodup honce _).trans (hvalue name)
  constructor
  · rintro ⟨table, htable, hstated⟩
    obtain ⟨honce, rfl⟩ := (hparse table).1 htable
    obtain ⟨hother, hvalue, htimeout⟩ := (hstates honce).1 hstated
    exact ⟨honce, hother, hvalue, htimeout⟩
  · rintro ⟨honce, hother, hvalue, htimeout⟩
    exact ⟨_, (hparse _).2 ⟨honce, rfl⟩, (hstates honce).2 ⟨hother, hvalue, htimeout⟩⟩

end CredentialFailover.Settings
