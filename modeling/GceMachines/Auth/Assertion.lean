import GceMachines.Auth.Document
import GceMachines.Crypto.Rsa

/-!
# Assertions

The holder of a service account's key asserts who it is: a signed statement that names the
account, what the access is for, where the statement is to be shown, and the hour for which it
holds.

* `Assertion.claims`: what is stated.
* `Assertion.sign`: the statement with its signature.
-/

namespace GceMachines

/-- What access is asked for. -/
def accessScope : String := "https://www.googleapis.com/auth/cloud-platform"

namespace Assertion

/-- How long a statement holds, in seconds. -/
def lifetimeSecs : Nat := 3600

/-- Why a statement cannot be signed. -/
inductive Fault
  /-- The text of the key holds no key. -/
  | noKey (f : Rsa.TextFault)
  | badKey (f : Rsa.KeyFault)
  /-- The parts of the key do not belong together. -/
  | noSignature
  deriving DecidableEq, Repr

/-- The wording of a refusal. -/
def Fault.message : Fault → String
  | .noKey f => "private_key: " ++ f.message
  | .badKey f => "sign assertion: RSA key invalid: " ++ f.message
  | .noSignature => "sign assertion: RsaFailedSigning"

/-- What kind of statement it is, and how it is signed. -/
def header : Json := .object [("typ", .string "JWT"), ("alg", .string "RS256")]

/-- **What is stated** at an instant. -/
def claims (key : ServiceAccountKey) (now : Int) : Json :=
  .object [("iss", .string key.clientEmail), ("scope", .string accessScope),
    ("aud", .string key.tokenUri), ("iat", .int now), ("exp", .int (now + lifetimeSecs))]

/-- A JSON value as it stands in a statement. -/
def part (j : Json) : String := Base64.encode Base64.forUrls (Utf8.encode j.compact)

/-- **The signed statement.** -/
def sign (key : ServiceAccountKey) (now : Int) : Except Fault String :=
  let text := part header ++ "." ++ part (claims key now)
  match Rsa.keyBytes key.privateKey with
  | .error f => .error (.noKey f)
  | .ok bytes =>
    match Rsa.Key.ofDer bytes with
    | .error f => .error (.badKey f)
    | .ok k =>
      match k.sign? (Utf8.encode text) with
      | none => .error .noSignature
      | some s => .ok (text ++ "." ++ Base64.encode Base64.forUrls s)

end Assertion

end GceMachines
