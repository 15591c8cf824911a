/-
How a provider is asked unless something else is set.
-/
namespace CredentialFailover.Http

/-- the user agent -/
def defaultUserAgent : String := "Xcode"

/-- how long a request and its redirects may take, in seconds -/
def defaultTimeout : Nat := 10

end CredentialFailover.Http
