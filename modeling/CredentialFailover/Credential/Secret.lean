/-
Secrets: texts that no diagnostic shows.

`Secret.shown` is what a diagnostic prints for a secret; it does not look at the text. The text itself is had by `expose`
alone.
-/
namespace CredentialFailover

/-- a text that no diagnostic shows -/
structure Secret where
  expose : String
  deriving DecidableEq

/-- what a diagnostic prints for a secret, whatever it is -/
def Secret.shown (_ : Secret) : String := "[REDACTED]"

end CredentialFailover
