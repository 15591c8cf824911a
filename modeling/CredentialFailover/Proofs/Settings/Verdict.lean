/-
Which files give settings, and what is reported about the others.

Four things can be wrong, and the first one in this order is reported: nothing can be read as a text, which an absent file
is only where one must be there; the text says no entries; it states a timeout of zero; it states a user agent of blanks.
What a text says is told by the entries that its table states, and for lines below a header by the lines. The environment has
no part in it: it neither mends a file nor spoils one, and what it sets changes neither the timeout nor the user agent. The
words for a text that says nothing are whatever the reader has for that text.

Main facts: `refused_iff` (the fault of every file), `load_eq_ok_iff` (which files give settings), and `load_verdict`, the
whole.
-/
import CredentialFailover.Proofs.Settings.Entries

namespace CredentialFailover.Settings

variable {required : Bool} {file : SettingsFile} {env : Environment}

/-! ## What can be wrong -/

/-- a file states entries: its octets are those of a text that says them, or it is absent where it need not be there, and
states nothing -/
inductive StatedBy (required : Bool) : SettingsFile → Stated → Prop where
  | written {text : String} {c : Stated} (hsaid : Says text c) : StatedBy required (.file (Utf8.bytes text)) c
  | absent {why : Missing} (hoptional : required = false) : StatedBy required (.missing why) ⟨none, none, none, none⟩

/-- nothing can be read as a text at a path: there is no file where one must be, or a folder, or octets that no text has -/
inductive Unreadable (required : Bool) : SettingsFile → Prop where
  | missing {why : Missing} (hrequired : required = true) : Unreadable required (.missing why)
  | directory : Unreadable required .directory
  | notText {content : List UInt8} (hcontent : ∀ text, Utf8.bytes text ≠ content) : Unreadable required (.file content)

/-- a file holds a text that says no entries -/
inductive Malformed : SettingsFile → String → Prop where
  | text {text : String} (hsaid : ∀ c, ¬ Says text c) : Malformed (.file (Utf8.bytes text)) text

/-- a file states a timeout of zero -/
def StatesNoTime (required : Bool) (file : SettingsFile) : Prop := ∃ c, StatedBy required file c ∧ c.timeout = some 0

/-- a file states a user agent of blanks, and no timeout of zero -/
def StatesBlankAgent (required : Bool) (file : SettingsFile) : Prop :=
  ∃ c agent, StatedBy required file c ∧ c.timeout ≠ some 0 ∧ c.userAgent = some agent ∧
    ∀ a ∈ agent.toList, Text.isBlank a = true

/-- the faults of a file -/
inductive Refused (required : Bool) (file : SettingsFile) : SettingsFault → Prop where
  | unreadable {fault : SettingsFault} (hfile : Unreadable required file) (hfault : ofFile required file = .error fault) :
    Refused required file fault
  | malformed {text : String} (hfile : Malformed file text) : Refused required file (.malformed text)
  | noTime (hfile : StatesNoTime required file) : Refused required file .zeroTimeout
  | blankAgent (hfile : StatesBlankAgent required file) : Refused required file .blankUserAgent

theorem statedBy_file_iff {text : String} {c : Stated} : StatedBy required (.file (Utf8.bytes text)) c ↔ Says text c := by
  constructor
  · intro h
    generalize hcontent : Utf8.bytes text = content at h
    cases h with
    | @written text' _ hsaid =>
      have hsame : some text = some text' := by rw [← Utf8.decode?_bytes text, hcontent, Utf8.decode?_bytes]
      exact Option.some.inj hsame ▸ hsaid
  · exact .written

/-- the settings that a file holds are those of the entries that it states -/
theorem heldBy_iff_statedBy {s : Settings} :
    HeldBy required file s ↔ ∃ c : Stated, StatedBy required file c ∧ c.settings = s := by
  constructor
  · intro h
    cases h with
    | @written text table _ hparse htable =>
      obtain ⟨c, hstates, hs⟩ := ofTable_eq_some_iff.1 htable
      exact ⟨c, .written ⟨table, hparse, hstates⟩, hs⟩
    | absent hoptional => exact ⟨_, .absent hoptional, rfl⟩
  · rintro ⟨c, hstated, rfl⟩
    cases hstated with
    | written hsaid =>
      obtain ⟨table, hparse, hstates⟩ := hsaid
      exact .written hparse (ofTable_eq_some_iff.2 ⟨c, hstates, rfl⟩)
    | absent hoptional => exact .absent hoptional

theorem ofFile_of_unreadable (h : Unreadable required file) :
    ∃ fault, ofFile required file = .error fault ∧ fault.kind = .file := by
  cases h with
  | @missing why hrequired => exact ⟨.missing why, by rw [ofFile, if_pos hrequired], rfl⟩
  | directory => exact ⟨.directory, rfl, rfl⟩
  | @notText content hcontent =>
    have hdecode : Utf8.decode? content = none :=
      Option.eq_none_iff_forall_ne_some.2 fun text htext => hcontent text (Utf8.decode?_eq_some_iff.1 htext).symm
    exact ⟨.notText, by simp only [ofFile, hdecode], rfl⟩

theorem ofFile_of_malformed {text : String} (h : Malformed file text) :
    ofFile required file = .error (.malformed text) := by
  cases h with
  | text hsaid =>
    have hnone : (Toml.parse text).bind ofTable = none := by
      refine Option.eq_none_iff_forall_ne_some.2 fun s hs => ?_
      obtain ⟨table, hparse, htable⟩ := Option.bind_eq_some_iff.1 hs
      obtain ⟨c, hstates, -⟩ := ofTable_eq_some_iff.1 htable
      exact hsaid c ⟨table, hparse, hstates⟩
    simp only [ofFile, Utf8.decode?_bytes, ofText, hnone]

/-- every file is unreadable, malformed, or states entries -/
theorem exists_statedBy (hread : ¬ Unreadable required file) (hform : ∀ text, ¬ Malformed file text) :
    ∃ c, StatedBy required file c := by
  cases file with
  | missing why =>
    cases required with
    | true => exact absurd (Unreadable.missing rfl) hread
    | false => exact ⟨_, .absent rfl⟩
  | directory => exact absurd Unreadable.directory hread
  | file content =>
    by_cases htext : ∃ text, Utf8.bytes text = content
    · obtain ⟨text, rfl⟩ := htext
      by_cases hsaid : ∃ c, Says text c
      · obtain ⟨c, hc⟩ := hsaid
        exact ⟨c, .written hc⟩
      · exact absurd (Malformed.text (not_exists.1 hsaid)) (hform text)
    · exact absurd (Unreadable.notText (not_exists.1 htext)) hread

/-! ## What is loaded -/

theorem load_of_statedBy {c : Stated} (hfile : StatedBy required file c) :
    load required file env = c.settings.check.map fun s => s.override env.overrides := by
  simp only [load, heldBy_iff.1 (heldBy_iff_statedBy.2 ⟨c, hfile, rfl⟩)]
  cases c.settings.check <;> rfl

theorem load_of_stated_passes {c : Stated} (hfile : StatedBy required file c) (hpasses : c.Passes) (env : Environment) :
    load required file env = .ok (c.settings.override env.overrides) :=
  load_of_passes (heldBy_iff_statedBy.2 ⟨c, hfile, rfl⟩) (passes_settings_iff.2 hpasses) env

theorem check_of_no_time {c : Stated} (h : c.timeout = some 0) : c.settings.check = .error .zeroTimeout := by
  have htimeout : c.settings.timeout = 0 := by rw [Stated.settings, h, Option.getD_some]
  exact if_pos htimeout

theorem check_of_blank_agent {c : Stated} {agent : String} (htimeout : c.timeout ≠ some 0)
    (hagent : c.userAgent = some agent) (hblank : ∀ a ∈ agent.toList, Text.isBlank a = true) :
    c.settings.check = .error .blankUserAgent := by
  have htime : c.settings.timeout ≠ 0 := by
    cases hc : c.timeout with
    | none => simp [Stated.settings, hc]
    | some n => simpa [Stated.settings, hc] using fun hzero : n = 0 => htimeout (hzero ▸ hc)
  have hname : c.settings.userAgent = agent := by rw [Stated.settings, hagent, Option.getD_some]
  rw [check, if_neg htime, hname, (Text.trim_eq_nil_iff Text.isBlank _).2 hblank]
  rfl

/-- entries that pass no check have no time, or a blank user agent -/
theorem states_of_not_passes {c : Stated} (hfile : StatedBy required file c) (h : ¬ c.Passes) :
    StatesNoTime required file ∨ StatesBlankAgent required file := by
  by_cases htimeout : c.timeout = some 0
  · exact Or.inl ⟨c, hfile, htimeout⟩
  refine Or.inr ?_
  by_contra hagent
  refine h ⟨htimeout, fun agent hname => ?_⟩
  by_contra hblank
  refine hagent ⟨c, agent, hfile, htimeout, hname, fun a ha => ?_⟩
  by_contra hnot
  exact hblank ⟨a, ha, Bool.eq_false_of_not_eq_true hnot⟩

theorem load_of_refused {fault : SettingsFault} (h : Refused required file fault) (env : Environment) :
    load required file env = .error fault := by
  cases h with
  | unreadable hfile hfault => simp only [load, hfault]
  | malformed hfile => simp only [load, ofFile_of_malformed hfile]
  | noTime hfile =>
    obtain ⟨c, hc, htimeout⟩ := hfile
    rw [load_of_statedBy hc, check_of_no_time htimeout]
    rfl
  | blankAgent hfile =>
    obtain ⟨c, agent, hc, htimeout, hagent, hblank⟩ := hfile
    rw [load_of_statedBy hc, check_of_blank_agent htimeout hagent hblank]
    rfl

/-- a file is refused, or it states entries that pass the checks -/
theorem refused_or_passes (required : Bool) (file : SettingsFile) :
    (∃ fault, Refused required file fault) ∨ ∃ c, StatedBy required file c ∧ c.Passes := by
  by_cases hread : Unreadable required file
  · obtain ⟨fault, hfault, -⟩ := ofFile_of_unreadable hread
    exact Or.inl ⟨fault, .unreadable hread hfault⟩
  by_cases hform : ∃ text, Malformed file text
  · obtain ⟨text, htext⟩ := hform
    exact Or.inl ⟨_, .malformed htext⟩
  obtain ⟨c, hc⟩ := exists_statedBy hread (not_exists.1 hform)
  by_cases hpasses : c.Passes
  · exact Or.inr ⟨c, hc, hpasses⟩
  rcases states_of_not_passes hc hpasses with hstates | hstates
  · exact Or.inl ⟨_, .noTime hstates⟩
  · exact Or.inl ⟨_, .blankAgent hstates⟩

theorem refused_iff {fault : SettingsFault} : load required file env = .error fault ↔ Refused required file fault := by
  constructor
  · intro h
    rcases refused_or_passes required file with ⟨fault', hrefused⟩ | ⟨c, hc, hpasses⟩
    · rw [load_of_refused hrefused] at h
      exact Except.error.inj h ▸ hrefused
    · rw [load_of_stated_passes hc hpasses] at h
      cases h
  · exact fun h => load_of_refused h env

theorem load_eq_ok_iff {s : Settings} :
    load required file env = .ok s ↔
      ∃ c : Stated, StatedBy required file c ∧ c.Passes ∧ s = c.settings.override env.overrides := by
  constructor
  · intro h
    rcases refused_or_passes required file with ⟨fault, hrefused⟩ | ⟨c, hc, hpasses⟩
    · rw [load_of_refused hrefused] at h
      cases h
    · rw [load_of_stated_passes hc hpasses] at h
      exact ⟨c, hc, hpasses, (Except.ok.inj h).symm⟩
  · rintro ⟨c, hc, hpasses, rfl⟩
    exact load_of_stated_passes hc hpasses env

/-! ## What is reported -/

/-- a load that ends in a fault of a kind -/
def FailsAs (loaded : Except SettingsFault Settings) (kind : SettingsFault.Kind) : Prop :=
  ∃ fault, loaded = .error fault ∧ fault.kind = kind

/-- a load that ends in a fault of a kind with a text, whatever words there are for texts that say no entries -/
def FailsWith (loaded : Except SettingsFault Settings) (kind : SettingsFault.Kind) (text : (String → String) → String) :
    Prop :=
  ∃ fault, loaded = .error fault ∧ fault.kind = kind ∧ ∀ diagnose, fault.message diagnose = text diagnose

/-- two loads that show the same but for the overrides -/
inductive Alike : Except SettingsFault Settings → Except SettingsFault Settings → Prop where
  | loaded {s t : Settings} (htimeout : s.timeout = t.timeout) (hagent : s.userAgent = t.userAgent) :
    Alike (.ok s) (.ok t)
  | failed {f g : SettingsFault} (hkind : f.kind = g.kind) (hmessage : ∀ diagnose, f.message diagnose = g.message diagnose) :
    Alike (.error f) (.error g)

/-- what comes of a file: the settings of entries that pass the checks, or a fault that tells the first thing that is
wrong -/
structure Verdict (required : Bool) (file : SettingsFile) (loaded : Except SettingsFault Settings) : Prop where
  loads_iff : (∃ s, loaded = .ok s) ↔ ∃ c, StatedBy required file c ∧ c.Passes
  loads : ∀ s, loaded = .ok s → 1 ≤ s.timeout ∧ ∃ a ∈ s.userAgent.toList, Text.isBlank a = false
  stated : ∀ s, loaded = .ok s →
    ∃ c, StatedBy required file c ∧ s.timeout = c.timeout.getD 10 ∧ s.userAgent = c.userAgent.getD "Xcode"
  unreadable_iff : FailsAs loaded .file ↔ Unreadable required file
  malformed_iff : ∀ text,
    FailsWith loaded .form (fun diagnose => "TOML parse error: " ++ diagnose text) ↔ Malformed file text
  form : FailsAs loaded .form → ∃ text, Malformed file text
  noTime_iff :
    FailsWith loaded .settings (fun _ => "Configuration error: timeout_secs must be greater than 0") ↔
      StatesNoTime required file
  blankAgent_iff :
    FailsWith loaded .settings (fun _ => "Configuration error: user_agent must not be empty") ↔
      StatesBlankAgent required file
  settings : FailsAs loaded .settings → StatesNoTime required file ∨ StatesBlankAgent required file
  optional : ∀ why, file = .missing why → ((∃ fault, loaded = .error fault) ↔ required = true)
  lines : ∀ text below, file = .file (Utf8.bytes text) →
    Toml.FileSpelling (.header [] "anisette" :: Toml.assigns below) text.toList →
      ∀ c, StatedBy required file c ↔ Writes below c

theorem kind_of_unreadable {fault : SettingsFault} (hfile : Unreadable required file)
    (hfault : ofFile required file = .error fault) : fault.kind = .file := by
  obtain ⟨fault', hfault', hkind⟩ := ofFile_of_unreadable hfile
  obtain rfl := Except.error.inj (hfault.symm.trans hfault')
  exact hkind

theorem failsAs_file_iff : FailsAs (load required file env) .file ↔ Unreadable required file := by
  constructor
  · rintro ⟨fault, hload, hkind⟩
    cases refused_iff.1 hload with
    | unreadable hfile _ => exact hfile
    | malformed => cases hkind
    | noTime => cases hkind
    | blankAgent => cases hkind
  · intro h
    obtain ⟨fault, hfault, hkind⟩ := ofFile_of_unreadable h
    exact ⟨fault, refused_iff.2 (.unreadable h hfault), hkind⟩

/-- a fault of the form is that of a text that says nothing -/
theorem failsWith_form_iff {message : (String → String) → String} :
    FailsWith (load required file env) .form message ↔
      ∃ text, Malformed file text ∧ ∀ diagnose, "TOML parse error: " ++ diagnose text = message diagnose := by
  constructor
  · rintro ⟨fault, hload, hkind, hmessage⟩
    cases refused_iff.1 hload with
    | unreadable hfile hfault =>
      rw [kind_of_unreadable hfile hfault] at hkind
      cases hkind
    | @malformed text hfile => exact ⟨text, hfile, hmessage⟩
    | noTime => cases hkind
    | blankAgent => cases hkind
  · rintro ⟨text, hfile, hmessage⟩
    exact ⟨_, refused_iff.2 (.malformed hfile), rfl, hmessage⟩

/-- a fault of the settings is one of two -/
theorem failsWith_settings_iff {message : (String → String) → String} :
    FailsWith (load required file env) .settings message ↔
      (StatesNoTime required file ∧ ∀ diagnose, SettingsFault.zeroTimeout.message diagnose = message diagnose) ∨
        (StatesBlankAgent required file ∧ ∀ diagnose, SettingsFault.blankUserAgent.message diagnose = message diagnose) := by
  constructor
  · rintro ⟨fault, hload, hkind, hmessage⟩
    cases refused_iff.1 hload with
    | unreadable hfile hfault =>
      rw [kind_of_unreadable hfile hfault] at hkind
      cases hkind
    | malformed => cases hkind
    | noTime hfile => exact Or.inl ⟨hfile, hmessage⟩
    | blankAgent hfile => exact Or.inr ⟨hfile, hmessage⟩
  · rintro (⟨hfile, hmessage⟩ | ⟨hfile, hmessage⟩)
    · exact ⟨_, refused_iff.2 (.noTime hfile), rfl, hmessage⟩
    · exact ⟨_, refused_iff.2 (.blankAgent hfile), rfl, hmessage⟩

theorem alike_load (required : Bool) (file : SettingsFile) (env env' : Environment) :
    Alike (load required file env) (load required file env') := by
  rcases refused_or_passes required file with ⟨fault, hrefused⟩ | ⟨c, hc, hpasses⟩
  · rw [load_of_refused hrefused env, load_of_refused hrefused env']
    exact .failed rfl fun _ => rfl
  · rw [load_of_stated_passes hc hpasses env, load_of_stated_passes hc hpasses env']
    exact .loaded rfl rfl

theorem verdict_load (required : Bool) (file : SettingsFile) (env : Environment) :
    Verdict required file (load required file env) where
  loads_iff := by
    constructor
    · rintro ⟨s, hload⟩
      obtain ⟨c, hc, hpasses, -⟩ := load_eq_ok_iff.1 hload
      exact ⟨c, hc, hpasses⟩
    · rintro ⟨c, hc, hpasses⟩
      exact ⟨_, load_of_stated_passes hc hpasses env⟩
  loads := by
    intro s hload
    obtain ⟨c, -, hpasses, rfl⟩ := load_eq_ok_iff.1 hload
    have hsettings := passes_settings_iff.2 hpasses
    exact ⟨Nat.pos_of_ne_zero hsettings.timeout_ne, hsettings.userAgent⟩
  stated := by
    intro s hload
    obtain ⟨c, hc, -, rfl⟩ := load_eq_ok_iff.1 hload
    exact ⟨c, hc, rfl, rfl⟩
  unreadable_iff := failsAs_file_iff
  malformed_iff := by
    intro text
    rw [failsWith_form_iff]
    constructor
    · rintro ⟨text', hfile, hmessage⟩
      obtain rfl : text' = text := String.append_right_inj "TOML parse error: " |>.1 (hmessage id)
      exact hfile
    · exact fun hfile => ⟨text, hfile, fun _ => rfl⟩
  form := by
    rintro ⟨fault, hload, hkind⟩
    obtain ⟨text, hfile, -⟩ := failsWith_form_iff.1 ⟨fault, hload, hkind, fun _ => rfl⟩
    exact ⟨text, hfile⟩
  noTime_iff := by
    refine failsWith_settings_iff.trans ⟨?_, fun h => Or.inl ⟨h, fun _ => rfl⟩⟩
    rintro (⟨hfile, -⟩ | ⟨-, hmessage⟩)
    · exact hfile
    · exact absurd (hmessage id) (by decide)
  blankAgent_iff := by
    refine failsWith_settings_iff.trans ⟨?_, fun h => Or.inr ⟨h, fun _ => rfl⟩⟩
    rintro (⟨-, hmessage⟩ | ⟨hfile, -⟩)
    · exact absurd (hmessage id) (by decide)
    · exact hfile
  settings := by
    rintro ⟨fault, hload, hkind⟩
    rcases failsWith_settings_iff.1 ⟨fault, hload, hkind, fun _ => rfl⟩ with ⟨hfile, -⟩ | ⟨hfile, -⟩
    · exact Or.inl hfile
    · exact Or.inr hfile
  optional := by
    rintro why rfl
    exact load_missing
  lines := by
    rintro text below rfl htext c
    exact statedBy_file_iff.trans (says_iff_writes htext)

/-- **The verdict on a file is the environment's in no part.** Under any two environments a file gives settings with the same
timeout and user agent, or a fault of the same kind and text. Settings that are given are those of the entries that the file
states, let a request take time and name a user agent that is more than blanks. A fault is that of the file just if nothing
can be read as a text, that of its form just if the text says no entries, and that of the timeout or the user agent just if
the file states such entries, the timeout coming first. Of a header with lines below it the lines tell what is stated. -/
theorem load_verdict (required : Bool) (file : SettingsFile) (env env' : Environment) :
    Alike (load required file env) (load required file env') ∧ Verdict required file (load required file env) :=
  ⟨alike_load required file env env', verdict_load required file env⟩

/-- a line that states a user agent of blanks -/
def blankLines : List (String × Toml.Value) := [("user_agent", .text " \u00a0")]

/-- a file with this line alone -/
def blankText : String := "[anisette]\nuser_agent = \" \u00a0\"\n"

/-- a file with this line and a timeout of zero -/
def idleText : String := "[anisette]\ntimeout_secs = 0\nuser_agent = \" \u00a0\"\n"

/-- a file whose timeout is a text -/
def mistypedText : String := "[anisette]\ntimeout_secs = \"10\""

/-- a file of no lines -/
def brokenText : String := "not valid \x7b\x7b\x7b\x7b toml"

theorem load_verdict_faults :
    FailsWith (load true (.file (Utf8.bytes idleText)) Environment.empty) .settings
        (fun _ => "Configuration error: timeout_secs must be greater than 0") ∧
      FailsWith (load true (.file (Utf8.bytes blankText)) Environment.empty) .settings
        (fun _ => "Configuration error: user_agent must not be empty") ∧
      FailsWith (load true (.file (Utf8.bytes mistypedText)) Environment.empty) .form
        (fun diagnose => "TOML parse error: " ++ diagnose mistypedText) ∧
      FailsWith (load true (.file (Utf8.bytes brokenText)) Environment.empty) .form
        (fun diagnose => "TOML parse error: " ++ diagnose brokenText) := by
  have hverdict := fun file => (load_verdict true file Environment.empty Environment.empty).2
  have hheader : Toml.LineSpelling (.header [] "anisette") _ := .header (by decide)
  have hline : ∀ key s : String, Toml.IsBareKey key → Toml.LineSpelling (.assign [] key (.text s)) _ :=
    fun key s hkey => .assign hkey (.text (Toml.charsSpelling_escaped s.toList))
  have hnumber : Toml.LineSpelling (.assign [] "timeout_secs" (.integer (0 : ℕ))) _ := .assign (by decide) (.integer 0)
  have hblank : ∃ cs, cs = blankText.toList ∧
      Toml.FileSpelling (.header [] "anisette" :: Toml.assigns blankLines) cs := by
    refine ⟨_, ?_, .more hheader (List.mem_cons_self ..) <|
      .more (hline "user_agent" _ (by decide)) (List.mem_cons_self ..) .nil⟩
    decide +kernel
  have hidle : ∃ cs, cs = idleText.toList ∧
      Toml.FileSpelling (.header [] "anisette" :: Toml.assigns (("timeout_secs", .integer (0 : ℕ)) :: blankLines)) cs := by
    refine ⟨_, ?_, .more hheader (List.mem_cons_self ..) <| .more hnumber (List.mem_cons_self ..) <|
      .more (hline "user_agent" _ (by decide)) (List.mem_cons_self ..) .nil⟩
    decide +kernel
  have hmistyped : ∃ cs, cs = mistypedText.toList ∧
      Toml.FileSpelling (.header [] "anisette" :: Toml.assigns [("timeout_secs", .text "10")]) cs := by
    refine ⟨_, ?_, .more hheader (List.mem_cons_self ..) <| .last (hline "timeout_secs" _ (by decide))⟩
    decide +kernel
  obtain ⟨_, rfl, hblank⟩ := hblank
  obtain ⟨_, rfl, hidle⟩ := hidle
  obtain ⟨_, rfl, hmistyped⟩ := hmistyped
  refine ⟨(hverdict _).noTime_iff.2 ?_, (hverdict _).blankAgent_iff.2 ?_, ((hverdict _).malformed_iff _).2 ?_,
    ((hverdict _).malformed_iff _).2 ?_⟩
  · refine ⟨⟨none, none, some 0, some " \u00a0"⟩, ((hverdict _).lines _ _ rfl hidle _).2 ?_, rfl⟩
    exact ⟨by decide, by simp [PassesBut, blankLines, keys], fun name => by cases name <;> rfl, by simp⟩
  · refine ⟨⟨none, none, none, some " \u00a0"⟩, " \u00a0", ((hverdict _).lines _ _ rfl hblank _).2 ?_, by simp, rfl, ?_⟩
    · exact ⟨by decide, by simp [PassesBut, blankLines, keys], fun name => by cases name <;> rfl, by simp⟩
    · have hchars : " \u00a0".toList = [' ', '\u00a0'] := rfl
      rw [hchars]
      exact List.forall_mem_cons.2 ⟨by decide, List.forall_mem_singleton.2 (by decide)⟩
  · refine .text fun c hsaid => ?_
    have hvalue := ((says_iff_writes hmistyped).1 hsaid).value .timeout
    cases hc : c.timeout <;> simp [Stated.value, Keyed.get?, Name.key, hc] at hvalue
  · refine .text fun c hsaid => ?_
    obtain ⟨table, hparse, -⟩ := hsaid
    have hnone : (Toml.parse brokenText).isNone = true := by decide +kernel
    rw [hparse] at hnone
    cases hnone

end CredentialFailover.Settings
