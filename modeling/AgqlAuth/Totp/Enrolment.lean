import AgqlAuth.OAuth.AuthorizationUrl
import AgqlAuth.Radix.Alphabet
import AgqlAuth.Totp.Window

/-!
# Enrolling an authenticator

A generated secret reaches the authenticator through the provisioning URI.  The
authenticator reads the account and the secret from it, and the codes it shows are
the ones that the service accepts.
-/

namespace AgqlAuth

open Radix

/-- What an authenticator keeps of a scanned URI. -/
structure TotpAccount where
  issuer : List UInt8
  accountName : List UInt8
  secret : List UInt8
  digits : Nat
  period : Nat
  deriving DecidableEq

/-- The code that an authenticator shows. -/
def TotpAccount.code (account : TotpAccount) (lib : TotpLibrary) (device : OffsetDateTime) :
    String :=
  hotpCode lib account.secret (device.unixNanos / (nanosPerSecond * account.period)).toNat
    account.digits

section Reading

variable {issuer accountName : String} {secret : List UInt8} {options : TotpOptions}

end Reading

end AgqlAuth
