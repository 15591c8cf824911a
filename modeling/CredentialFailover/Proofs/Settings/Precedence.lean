/-
The environment comes before the file, and the list before the single address.

A variable sets a text if its octets are the UTF-8 of one that is more than blanks; then the text is in force as it stands,
whatever the file says, also if it is a list that names nothing. Otherwise the file's own entry is in force. The candidates
are made of the list and the address in force.

Main facts: `heldBy_iff`, `load_of_passes` (which files give settings), `load_in_force`.
-/
import CredentialFailover.Program
import CredentialFailover.Proofs.Endpoint.Candidates
import CredentialFailover.Proofs.Text.Decoding

namespace CredentialFailover

/-! ## Variables -/

namespace Environment

/-- a variable sets a text: it has the text's octets, and there is more in the text than blanks -/
def Sets (env : Environment) (name text : String) : Prop :=
  env name = some (Utf8.bytes text) ∧ ∃ c ∈ text.toList, c ∉ Endpoint.edges

/-- the text in force, if there is one: the text that a variable sets, else a given one -/
inductive InForce (env : Environment) (name : String) (given : Option String) : Option String → Prop where
  | overridden {text : String} (hsets : env.Sets name text) : InForce env name given (some text)
  | standing (hsets : ∀ text, ¬ env.Sets name text) : InForce env name given given

theorem text?_eq_some_iff {env : Environment} {name text : String} :
    env.text? name = some text ↔ env name = some (Utf8.bytes text) := by
  simp only [text?, Option.bind_eq_some_iff, Utf8.decode?_eq_some_iff]
  constructor
  · rintro ⟨octets, hoctets, rfl⟩
    exact hoctets
  · intro h
    exact ⟨_, h, rfl⟩

theorem setting?_eq_some_iff {env : Environment} {name text : String} :
    env.setting? name = some text ↔ env.Sets name text := by
  have htrim : (!(Text.trim Text.isEdge text.toList).isEmpty) = true ↔ ∃ c ∈ text.toList, c ∉ Endpoint.edges := by
    simp [Text.trim_eq_nil_iff, Endpoint.isEdge_eq_false_iff]
  rw [setting?, Option.filter_eq_some_iff, text?_eq_some_iff, htrim]
  rfl

theorem inForce_iff {env : Environment} {name : String} {given v : Option String} :
    env.InForce name given v ↔ v = (env.setting? name).or given := by
  constructor
  · intro h
    cases h with
    | overridden hsets => rw [setting?_eq_some_iff.2 hsets, Option.some_or]
    | standing hsets =>
      have hnone : env.setting? name = none :=
        Option.eq_none_iff_forall_ne_some.2 fun text htext => hsets text (setting?_eq_some_iff.1 htext)
      rw [hnone, Option.none_or]
  · rintro rfl
    cases hsetting : env.setting? name with
    | some text => exact InForce.overridden (setting?_eq_some_iff.1 hsetting)
    | none =>
      refine InForce.standing fun text hsets => ?_
      rw [← setting?_eq_some_iff, hsetting] at hsets
      cases hsets

end Environment

theorem Program.candidates_eq_map (s : Settings) :
    Program.candidates s = (Program.client s).map fun _ => s.overrides.candidates := by
  unfold Program.candidates
  cases Program.client s <;> rfl

/-! ## Files -/

namespace Settings

/-- a file holds settings: its octets are those of a text that writes them, or it is absent where it need not be there -/
inductive HeldBy (required : Bool) : SettingsFile → Settings → Prop where
  | written {text : String} {table : Toml.Table} {s : Settings} (hparse : Toml.parse text = some table)
    (htable : ofTable table = some s) : HeldBy required (.file (Utf8.bytes text)) s
  | absent {why : Missing} (hoptional : required = false) : HeldBy required (.missing why) default

theorem ofText_eq_ok_iff {text : String} {s : Settings} :
    ofText text = .ok s ↔ ∃ table, Toml.parse text = some table ∧ ofTable table = some s := by
  rw [← Option.bind_eq_some_iff, ofText]
  cases (Toml.parse text).bind ofTable <;> simp

theorem heldBy_iff {required : Bool} {file : SettingsFile} {s : Settings} :
    HeldBy required file s ↔ ofFile required file = .ok s := by
  constructor
  · intro h
    cases h with
    | written hparse htable =>
      simp only [ofFile, Utf8.decode?_bytes]
      exact ofText_eq_ok_iff.2 ⟨_, hparse, htable⟩
    | absent hoptional => simp [ofFile, hoptional]
  · intro h
    cases file with
    | missing why =>
      cases required with
      | true => simp [ofFile] at h
      | false =>
        obtain rfl := Except.ok.inj h
        exact HeldBy.absent rfl
    | directory => cases h
    | file content =>
      cases hdecode : Utf8.decode? content with
      | none => simp [ofFile, hdecode] at h
      | some text =>
        simp only [ofFile, hdecode] at h
        obtain ⟨table, hparse, htable⟩ := ofText_eq_ok_iff.1 h
        obtain rfl := Utf8.decode?_eq_some_iff.1 hdecode
        exact HeldBy.written hparse htable

/-- settings that pass the checks: a request may take time, and the user agent is more than blanks -/
structure Passes (s : Settings) : Prop where
  timeout_ne : s.timeout ≠ 0
  userAgent : ∃ c ∈ s.userAgent.toList, Text.isBlank c = false

theorem check_of_passes {s : Settings} (h : s.Passes) : s.check = .ok s := by
  have hagent : (Text.trim Text.isBlank s.userAgent.toList).isEmpty = false := by
    rw [← Bool.not_eq_true, List.isEmpty_iff, Text.trim_eq_nil_iff]
    intro hblank
    obtain ⟨c, hc, hnot⟩ := h.userAgent
    rw [hblank c hc] at hnot
    cases hnot
  rw [check, if_neg h.timeout_ne, hagent]
  rfl

/-- settings of a file that passes the checks are loaded, with what the environment sets put in place -/
theorem load_of_passes {required : Bool} {file : SettingsFile} {base : Settings} (hfile : HeldBy required file base)
    (hpasses : base.Passes) (env : Environment) : load required file env = .ok (base.override env.overrides) := by
  simp only [load, heldBy_iff.1 hfile, check_of_passes hpasses]

/-- a file that is missing leaves the settings as they are by default, unless it must be there -/
theorem load_missing {required : Bool} {why : Missing} {env : Environment} :
    (∃ fault, load required (.missing why) env = .error fault) ↔ required = true := by
  cases required with
  | true => exact ⟨fun _ => rfl, fun _ => ⟨.missing why, rfl⟩⟩
  | false =>
    have hpasses : default.Passes := ⟨by decide, 'X', by decide, by decide⟩
    simp [load_of_passes (HeldBy.absent rfl) hpasses]

/-- **Precedence.** Settings that pass the checks are loaded, whatever the environment, and what a variable sets is in force
in place of what the file says, both for the list and for the single address. The candidates are those that the two in force
make, and as long as the list in force names one, no single address changes them. -/
theorem load_in_force {required : Bool} {file : SettingsFile} {base : Settings} (hfile : HeldBy required file base)
    (hpasses : base.Passes) (env : Environment) :
    ∃ s, load required file env = .ok s ∧
      env.InForce Environment.serversName base.servers s.servers ∧
      env.InForce Environment.serverName base.server s.server ∧
      (s.timeout = base.timeout ∧ s.userAgent = base.userAgent) ∧
      (∃ es, s.overrides.Makes es ∧ Program.candidates s = (Program.client s).map fun _ => es) ∧
      (s.overrides.tokens ≠ [] → ∀ server, Program.candidates { s with server } = Program.candidates s) := by
  refine ⟨base.override env.overrides, load_of_passes hfile hpasses env, Environment.inForce_iff.2 rfl,
    Environment.inForce_iff.2 rfl, ⟨rfl, rfl⟩, ⟨_, Overrides.makes_iff.2 rfl, Program.candidates_eq_map _⟩, ?_⟩
  intro htokens server
  have hsame : ∀ s : Settings, s.overrides.tokens ≠ [] →
      ({ s with server } : Settings).overrides.candidates = s.overrides.candidates :=
    fun s hs => Overrides.candidates_of_tokens rfl hs
  rw [Program.candidates_eq_map, Program.candidates_eq_map, hsame _ htokens]
  rfl

/-- a file with a list and a single address -/
def fileText : String :=
  "[anisette]\nservers = \"http://file-a,http://file-b\"\nserver = \"http://single\"\n"

/-- an environment that sets the list to a separator and leaves the single address blank -/
def separatorOnly : Environment := fun name =>
  if name = Environment.serversName then some (Utf8.bytes " ;")
  else if name = Environment.serverName then some (Utf8.bytes "\t ") else none

theorem load_in_force_separator :
    ∃ s, load true (.file (Utf8.bytes fileText)) separatorOnly = .ok s ∧
      (s.servers = some " ;" ∧ s.server = some "http://single") ∧
      Program.candidates s = .ok [⟨"http://single"⟩, ⟨"http://127.0.0.1:6969"⟩, ⟨"http://localhost:6969"⟩] := by
  have htext : ofText fileText = .ok ⟨some "http://file-a,http://file-b", some "http://single", 10, "Xcode"⟩ := by
    decide +kernel
  obtain ⟨table, hparse, htable⟩ := ofText_eq_ok_iff.1 htext
  have hfile : HeldBy true (.file (Utf8.bytes fileText)) _ := HeldBy.written hparse htable
  obtain ⟨⟨servers, server, timeout, userAgent⟩, hload, hservers, hserver, ⟨rfl, rfl⟩, -, -⟩ :=
    load_in_force hfile ⟨by decide, 'X', by decide, by decide⟩ separatorOnly
  have hsetList : separatorOnly.setting? Environment.serversName = some " ;" := by decide +kernel
  have hsetSingle : separatorOnly.setting? Environment.serverName = none := by decide +kernel
  rw [Environment.inForce_iff, hsetList] at hservers
  rw [Environment.inForce_iff, hsetSingle] at hserver
  obtain rfl : servers = some " ;" := hservers
  obtain rfl : server = some "http://single" := hserver
  exact ⟨_, hload, ⟨rfl, rfl⟩, rfl⟩

end Settings

end CredentialFailover
