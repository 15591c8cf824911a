import CredentialFailover.Main
import CredentialFailover.Proofs.Acquisition.Conservation
import CredentialFailover.Proofs.Acquisition.Entries
import CredentialFailover.Proofs.Acquisition.Logging
import CredentialFailover.Proofs.Acquisition.Secrecy
import CredentialFailover.Proofs.Acquisition.Stages
import CredentialFailover.Proofs.Credential.Acceptance
import CredentialFailover.Proofs.Credential.Attaching
import CredentialFailover.Proofs.Credential.Exporting
import CredentialFailover.Proofs.Endpoint.Lists
import CredentialFailover.Proofs.Http.Redirects
import CredentialFailover.Proofs.Program.Outcome
import CredentialFailover.Proofs.Response.Document
import CredentialFailover.Proofs.Response.Refusal
import CredentialFailover.Proofs.Response.Snippet
import CredentialFailover.Proofs.Settings.Decoding
import CredentialFailover.Proofs.Settings.Verdict
