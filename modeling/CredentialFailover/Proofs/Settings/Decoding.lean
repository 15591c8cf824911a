/-
What is written in a settings file is what is loaded.

A file states some of the four entries, in any order, each on a line of its own under the header `anisette`; a text may be
spelled in any way that escapes what must be escaped, so it may look like a comment, a header or another line. What is left
out has its default. Keys of no entry, below the header or above it, change nothing.

Main facts: `states_of_written` (the table that such a file writes states the entries), `load_written`.
-/
import CredentialFailover.Proofs.Settings.Entries

namespace CredentialFailover.Settings

/-! ## What is written -/

/-- the entries that are stated, under their keys -/
def Stated.entries (c : Stated) : List (String × Toml.Value) :=
  (c.servers.map fun s => ("servers", .text s)).toList ++ (c.server.map fun s => ("server", .text s)).toList ++
    (c.timeout.map fun n => ("timeout_secs", .integer n)).toList ++
    (c.userAgent.map fun s => ("user_agent", .text s)).toList

/-- what is stated can be in force: a request may take time, and the user agent is more than blanks -/
structure Stated.Sound (c : Stated) : Prop where
  timeout : ∀ n ∈ c.timeout, 1 ≤ n ∧ n ≤ 2 ^ 63 - 1
  userAgent : ∀ s ∈ c.userAgent, ∃ a ∈ s.toList, Text.isBlank a = false

/-- texts under keys -/
def texts (us : List (String × String)) : List (String × Toml.Value) := us.map fun u => (u.1, .text u.2)

/-! ## The table -/

theorem passable_of_mem_texts {us : List (String × String)} {e : String × Toml.Value} (h : e ∈ texts us) :
    Passable e.2 := by
  obtain ⟨u, -, rfl⟩ := List.mem_map.1 h
  exact .text u.2

theorem keys_texts (us : List (String × String)) : (texts us).map (·.1) = us.map (·.1) := by
  rw [texts, List.map_map]
  rfl

theorem keys_entries (c : Stated) : (c.entries.map (·.1)).Sublist keys := by
  have hone : ∀ {α : Type} (o : Option α) (key : String) (f : α → Toml.Value),
      ((o.map fun a => (key, f a)).toList.map (·.1)).Sublist [key] := by
    intro α o key f
    cases o <;> simp
  simp only [Stated.entries, List.map_append]
  exact (((hone c.servers ..).append (hone c.server ..)).append (hone c.timeout ..)).append (hone c.userAgent ..)

theorem get?_option {α : Type} (o : Option α) (key k : String) (f : α → Toml.Value) :
    Keyed.get? k (o.map fun a => (key, f a)).toList = if key = k then o.map f else none := by
  cases o <;> simp [Keyed.get?]

/-- under the key of an entry stands what is stated -/
theorem get?_entries (c : Stated) (name : Name) : Keyed.get? name.key c.entries = c.value name := by
  cases name <;> simp [Stated.entries, Stated.value, Name.key, Keyed.get?_append, get?_option]

variable {c : Stated} {below : List (String × Toml.Value)} {unknown : List (String × String)}

/-- the keys below the header come once -/
theorem nodup_below (hbelow : below.Perm (c.entries ++ texts unknown)) (hdistinct : (unknown.map (·.1)).Nodup)
    (hunknown : ∀ u ∈ unknown, u.1 ∉ keys) : (below.map (·.1)).Nodup := by
  rw [(hbelow.map (·.1)).nodup_iff, List.map_append, keys_texts]
  refine List.nodup_append.2 ⟨(keys_entries c).nodup (by decide), hdistinct, ?_⟩
  rintro key hentry _ hkey rfl
  obtain ⟨u, hu, rfl⟩ := List.mem_map.1 hkey
  exact hunknown u hu ((keys_entries c).subset hentry)

/-- what is found under the key of an entry is what is stated, whatever stands below the header besides -/
theorem get?_below (hbelow : below.Perm (c.entries ++ texts unknown)) (hdistinct : (unknown.map (·.1)).Nodup)
    (hunknown : ∀ u ∈ unknown, u.1 ∉ keys) (name : Name) :
    Keyed.get? name.key (Keyed.ofList below) = c.value name := by
  have hkey : name.key ∈ keys := by cases name <;> decide
  have hnone : Keyed.get? name.key (texts unknown) = none := by
    refine Keyed.get?_eq_none_of_ne fun e he heq => ?_
    obtain ⟨u, hu, rfl⟩ := List.mem_map.1 he
    exact hunknown u hu (heq ▸ hkey)
  have hnodup := nodup_below hbelow hdistinct hunknown
  calc Keyed.get? name.key (Keyed.ofList below)
      = Keyed.get? name.key below := Keyed.get?_ofList_of_nodup hnodup _
    _ = Keyed.get? name.key (c.entries ++ texts unknown) := Keyed.get?_of_perm hbelow hnodup
    _ = c.value name := by rw [Keyed.get?_append, hnone, Option.or_none, get?_entries]

/-- entries below the header that are none of the four are texts, which can be passed over -/
theorem passesBut_below (hbelow : below.Perm (c.entries ++ texts unknown)) : PassesBut keys (Keyed.ofList below) := by
  intro e he hother
  rcases List.mem_append.1 (hbelow.mem_iff.1 (Keyed.mem_of_mem_ofList he)) with hentry | htext
  · exact absurd ((keys_entries c).subset (List.mem_map_of_mem hentry)) hother
  · exact passable_of_mem_texts htext

/-- a table in which entries are written, among texts under other keys, states them -/
theorem states_of_written {above : List (String × String)} (hsound : c.Sound)
    (hbelow : below.Perm (c.entries ++ texts unknown)) (hdistinct : (unknown.map (·.1)).Nodup)
    (hunknown : ∀ u ∈ unknown, u.1 ∉ keys) :
    States (Keyed.insert "anisette" (.table .header (Keyed.ofList below)) (Keyed.ofList (texts above))) c where
  other := by
    intro e he hother
    rcases Keyed.mem_insert he with rfl | hmem
    · exact absurd (List.mem_singleton.2 rfl) hother
    · exact passable_of_mem_texts (Keyed.mem_of_mem_ofList hmem)
  entries := by
    rw [Keyed.get?_insert_self]
    exact .table (passesBut_below hbelow) (get?_below hbelow hdistinct hunknown)
  timeout := by
    intro n hn
    have hbound := hsound.timeout n hn
    omega

theorem Stated.Sound.passes (hsound : c.Sound) : c.Passes := by
  refine ⟨fun hzero => ?_, hsound.userAgent⟩
  have hbound := hsound.timeout 0 hzero
  omega

/-! ## The file -/

/-- **What is written is loaded.** A file that states some of the entries, each on a line of its own below the header, in any
order and with any spelling of its texts, makes exactly the settings that are stated, with the defaults of what is left out;
lines of other keys, below the header or above it, change nothing. -/
theorem load_written {above : List (String × String)} {text : String} {env : Environment} (required : Bool)
    (hsound : c.Sound) (hbelow : below.Perm (c.entries ++ texts unknown)) (hdistinct : (unknown.map (·.1)).Nodup)
    (hunknown : ∀ u ∈ unknown, u.1 ∉ keys) (habove : (above.map (·.1)).Nodup) (hname : ∀ u ∈ above, u.1 ≠ "anisette")
    (htext : Toml.FileSpelling (Toml.assigns (texts above) ++ .header [] "anisette" :: Toml.assigns below) text.toList)
    (hservers : env Environment.serversName = none) (hserver : env Environment.serverName = none) :
    load required (.file (Utf8.bytes text)) env =
      .ok ⟨c.servers, c.server, c.timeout.getD 10, c.userAgent.getD "Xcode"⟩ := by
  have hother : ∀ e ∈ texts above, e.1 ≠ "anisette" := by
    intro e he
    obtain ⟨u, hu, rfl⟩ := List.mem_map.1 he
    exact hname u hu
  have htable := Toml.ofStatements_of_header (by rwa [keys_texts]) hother (nodup_below hbelow hdistinct hunknown)
  have hfile : HeldBy required (.file (Utf8.bytes text)) c.settings :=
    HeldBy.written ((Toml.parse_of_spelling htext).trans htable)
      (ofTable_eq_some_iff.2 ⟨c, states_of_written hsound hbelow hdistinct hunknown, rfl⟩)
  have hempty : env.overrides = ⟨none, none⟩ := by
    simp [Environment.overrides, Environment.setting?, Environment.text?, hservers, hserver]
  rw [load_of_passes hfile (passes_settings_iff.2 hsound.passes), hempty]
  rfl

/-- two entries, one of them a text that looks like more lines -/
def disguised : Stated := ⟨some "# \\[b]\nserver = \"\x00\"", none, some 9223372036854775807, none⟩

/-- the lines of these entries, with a key of no entry among them -/
def disguisedLines : List (String × Toml.Value) :=
  [("timeout_secs", .integer (9223372036854775807 : ℕ)), ("user", .text "\"\"\""),
    ("servers", .text "# \\[b]\nserver = \"\x00\"")]

/-- a file with these lines, and a key above the header -/
def disguisedText : String :=
  "title = \"[anisette]\"\n[anisette]\ntimeout_secs = 9223372036854775807\nuser = \"\\\"\\\"\\\"\"\r\n" ++
    "servers = \"# \\\\[b]\\u000aserver = \\\"\\u0000\\\"\""

theorem load_written_disguised :
    load true (.file (Utf8.bytes disguisedText)) Environment.empty =
      .ok ⟨some "# \\[b]\nserver = \"\x00\"", none, 9223372036854775807, "Xcode"⟩ := by
  have hline : ∀ key s : String, Toml.IsBareKey key → Toml.LineSpelling (.assign [] key (.text s)) _ :=
    fun key s hkey => .assign hkey (.text (Toml.charsSpelling_escaped s.toList))
  have hnumber : Toml.LineSpelling (.assign [] "timeout_secs" (.integer (9223372036854775807 : ℕ))) _ :=
    .assign (by decide) (.integer 9223372036854775807)
  have hspelling : ∃ cs, cs = disguisedText.toList ∧ Toml.FileSpelling
      (Toml.assigns (texts [("title", "[anisette]")]) ++ .header [] "anisette" :: Toml.assigns disguisedLines) cs := by
    refine ⟨_, ?_, .more (hline "title" _ (by decide)) (List.mem_cons_self ..) <| .more (.header (by decide))
      (List.mem_cons_self ..) <| .more hnumber (List.mem_cons_self ..) <| .more (hline "user" _ (by decide))
      (List.mem_cons_of_mem _ (List.mem_cons_self ..)) (.last (hline "servers" _ (by decide)))⟩
    decide +kernel
  obtain ⟨cs, hcs, htext⟩ := hspelling
  rw [hcs] at htext
  have hsound : disguised.Sound := ⟨by simp [disguised], by simp [disguised]⟩
  have hbelow : disguisedLines.Perm (disguised.entries ++ texts [("user", "\"\"\"")]) :=
    @List.perm_append_comm _ [_, _] [_]
  exact load_written true hsound hbelow (by decide) (by decide) (by decide) (by decide) htext rfl rfl

end CredentialFailover.Settings
