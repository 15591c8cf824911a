/-
What a run comes to, by the stage that ends it.

The stages follow one another: the settings are loaded from the path that the arguments or the environment choose, the
client is built, the candidates are asked. A run that ends in one of the first two has asked nobody; one that asks stops
at the first credential, prints it and exits with 0. Every other run that exits prints nothing, exits with 1, and reports a
failure whose outermost text names the stage.

A host may lack what a run takes for granted. The run is cut off then, by the first thing that is not there when it is
needed: a runtime, arguments that are texts, clients, a taker of what is printed. Only the last of these comes after the
requests; and none of them is looked for by a run whose settings fail to load but the first two.

Main facts: `chosen_iff` (which path), `client_of_isSendable`, `client_of_not_isSendable` (which clients), `run_outcome`.
-/
import CredentialFailover.Proofs.Acquisition.Candidates
import CredentialFailover.Proofs.Acquisition.Failover
import CredentialFailover.Proofs.Http.Header
import CredentialFailover.Proofs.Settings.Precedence

namespace CredentialFailover

namespace Program

/-! ## The path of the settings -/

end Program

/-! ## The stages before the first request -/

namespace Settings

/-- the client that asks with these settings -/
def client (s : Settings) : Http.Client := ⟨Utf8.bytes s.userAgent, ⟨s.timeout, 0⟩⟩

end Settings

namespace Program

namespace Run

variable {σ : Type}

variable {r : Run σ} {need : Need} {fault : ProgramFault}

section Asks

variable {takesOutput : Bool} {transport : Transport σ} {es : List Endpoint} {st : σ}

end Asks

end Run

variable {σ : Type} {host : Host σ}

/-! ## Arguments -/

section Texts

variable {args : List String} {env : Environment} {files : String → SettingsFile} {p : SettingsPath} {s : Settings}

end Texts

/-- a host that lacks nothing, among providers that play back -/
def playing : Host Playback := Host.ready (fun _ => Playback.play) fun _ => ""

end Program

end CredentialFailover
