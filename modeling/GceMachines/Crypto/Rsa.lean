import GceMachines.Crypto.Der
import GceMachines.Crypto.Pem
import GceMachines.Crypto.Sha256

/-!
# RSA

A signature is the hash of a message, filled up to the length of the modulus and raised to the
private exponent. The power is taken modulo the two primes and put together; it is given out only
if the public exponent leads back.

* `Rsa.Key`: the numbers of a private key, and `Rsa.Key.ofDer`: their notation, with the checks
  that a key has to pass.
* `Rsa.keyBytes`: where the notation stands in a PEM text.
* `Rsa.Key.sign?`: a signature.
* `powMod_eq`: the power that `powMod` computes.
-/

namespace GceMachines.Rsa

/-! ### Powers -/

/-- A power modulo `m`. -/
def powMod (m b e : Nat) : Nat :=
  if e = 0 then 1 % m
  else
    let h := powMod m (b * b % m) (e / 2)
    if e % 2 = 1 then b * h % m else h
termination_by e

theorem powMod_eq (m b e : Nat) : powMod m b e = Nat.pow b e % m := by
  simp only [Nat.pow_eq]
  induction e using Nat.strongRecOn generalizing b with
  | ind e ih =>
    rw [powMod]
    split
    case isTrue h => simp [h]
    case isFalse h =>
      have hlt : e / 2 < e := by omega
      have square : (b * b % m) ^ (e / 2) % m = b ^ (2 * (e / 2)) % m := by
        rw [← Nat.pow_mod, Nat.pow_mul, Nat.pow_two]
      simp only [ih _ hlt, square]
      split
      case isTrue hodd =>
        rw [Nat.mul_mod, Nat.mod_mod, ← Nat.mul_mod]
        congr 1
        rw [Nat.mul_comm, ← Nat.pow_succ]
        congr 1
        omega
      case isFalse heven =>
        congr 2
        omega

/-- The number of binary digits. -/
def bitLength (n : Nat) : Nat := if n = 0 then 0 else n.log2 + 1

/-! ### Keys -/

/-- Why bytes are no key to sign with. -/
inductive KeyFault
  /-- A modulus is shorter than any that is computed with. -/
  | unexpected
  | invalidEncoding
  | versionNotSupported
  /-- The modulus has less than 2048 bits, or the public exponent is too small. -/
  | tooSmall
  /-- The modulus has more than 4096 bits, or the public exponent is too large. -/
  | tooLarge
  | invalidComponent
  | inconsistentComponents
  /-- The primes do not have a multiple of 512 bits. -/
  | primeLength
  deriving DecidableEq, Repr

/-- The wording of a refusal. -/
def KeyFault.message : KeyFault → String
  | .unexpected => "UnexpectedError"
  | .invalidEncoding => "InvalidEncoding"
  | .versionNotSupported => "VersionNotSupported"
  | .tooSmall => "TooSmall"
  | .tooLarge => "TooLarge"
  | .invalidComponent => "InvalidComponent"
  | .inconsistentComponents => "InconsistentComponents"
  | .primeLength => "PrivateModulusLenNotMultipleOf512Bits"

/-- **A private key.** -/
structure Key where
  modulus : Nat
  publicExponent : Nat
  privateExponent : Nat
  prime1 : Nat
  prime2 : Nat
  /-- The private exponent modulo one less than the first prime. -/
  exponent1 : Nat
  /-- The private exponent modulo one less than the second prime. -/
  exponent2 : Nat
  /-- The inverse of the second prime modulo the first. -/
  coefficient : Nat
  deriving DecidableEq, Repr

/-- The contents of the element of a tag at the front, if it is written canonically. -/
def take (tag : UInt8) (bs : List UInt8) : Except KeyFault (List UInt8 × List UInt8) :=
  match Der.element? bs with
  | some (e, rest) =>
    if e.tag = tag && e.canonical then .ok (e.contents, rest) else .error .invalidEncoding
  | none => .error .invalidEncoding

/-- The number of contents that are not negative and have no superfluous byte. -/
def natural : List UInt8 → Except KeyFault Nat
  | [] => .error .invalidEncoding
  | [0] => .ok 0
  | 0 :: b :: bs => if b < 0x80 then .error .invalidEncoding else .ok (Der.number (b :: bs))
  | b :: bs => if b < 0x80 then .ok (Der.number (b :: bs)) else .error .invalidEncoding

/-- As many numbers as wanted, and what follows them. -/
def naturals : (count : Nat) → List UInt8 → Except KeyFault (List Nat × List UInt8)
  | 0, bs => .ok ([], bs)
  | k + 1, bs => do
    let (contents, bs) ← take Der.integerTag bs
    let n ← natural contents
    let (ns, bs) ← naturals k bs
    return (n :: ns, bs)

namespace Key

/-- How many words of 64 bits a number takes. -/
def words (n : Nat) : Nat := (bitLength n + 63) / 64

/-- The checks on a modulus: it can be computed with only if it is odd and takes from 4 to 128
words. -/
def checkModulus (n : Nat) : Except KeyFault Unit := do
  if words n < 4 then throw .unexpected
  if 128 < words n then throw .tooLarge
  if n % 2 = 0 then throw .invalidComponent

/-- The checks on the public half of a key. -/
def checkPublic (k : Key) : Except KeyFault Unit := do
  checkModulus k.modulus
  if (bitLength k.modulus + 7) / 8 * 8 < 2048 then throw .tooSmall
  if 4096 < bitLength k.modulus then throw .tooLarge
  if Nat.pow 2 40 ≤ k.publicExponent then throw .tooLarge
  if k.publicExponent = 0 then throw .invalidEncoding
  if k.publicExponent < 65537 then throw .tooSmall
  if Nat.pow 2 33 ≤ k.publicExponent then throw .tooLarge
  if k.publicExponent % 2 = 0 then throw .invalidComponent

/-- The checks on a prime of a number of bits. -/
def checkPrime (half prime : Nat) : Except KeyFault Unit := do
  checkModulus prime
  if bitLength prime ≠ half then throw .inconsistentComponents
  if half % 512 ≠ 0 then throw .primeLength

/-- The checks on the private half of a key. -/
def checkPrivate (k : Key) : Except KeyFault Unit := do
  let half := (bitLength k.modulus + 1) / 2
  checkPrime half k.prime1
  checkPrime half k.prime2
  if k.prime1 * k.prime2 % k.modulus ≠ 0 then throw .inconsistentComponents
  if (checkModulus k.privateExponent).toOption.isNone then throw .invalidComponent
  if bitLength k.privateExponent ≤ half || k.modulus ≤ k.privateExponent then
    throw .inconsistentComponents
  if k.prime1 ≤ k.coefficient then throw .invalidComponent
  if k.coefficient * k.prime2 % k.prime1 ≠ 1 then throw .inconsistentComponents
  if k.prime1 ≤ k.exponent1 || k.prime2 ≤ k.exponent2 then throw .inconsistentComponents
  if k.exponent1 % 2 = 0 || k.exponent2 % 2 = 0 then throw .inconsistentComponents

/-- **The key of a notation**: a sequence of a version, which is zero, and the eight numbers. -/
def ofDer (bs : List UInt8) : Except KeyFault Key := do
  let (contents, after) ← take Der.sequenceTag bs
  let (version, contents) ← take Der.integerTag contents
  let version ← natural version
  if 255 < version then throw .invalidEncoding
  if version ≠ 0 then throw .versionNotSupported
  match ← naturals 8 contents with
  | ([n, e, d, p, q, dp, dq, qi], rest) =>
    let k : Key := ⟨n, e, d, p, q, dp, dq, qi⟩
    k.checkPublic
    k.checkPrivate
    if rest.isEmpty && after.isEmpty then return k else throw .invalidEncoding
  | _ => throw .invalidEncoding

end Key

/-! ### Keys in PEM texts -/

/-- Why a text holds no key. -/
inductive TextFault
  | invalidFormat
  /-- There is no string for a key to stand in. -/
  | missingString
  deriving DecidableEq, Repr

/-- The wording of a refusal. -/
def TextFault.message : TextFault → String
  | .invalidFormat => "InvalidKeyFormat"
  | .missingString => "InvalidEcdsaKey"

/-- The object identifiers of the kinds of keys, and whether it is this kind. -/
def keyKinds : List (List Nat × Bool) := [
  ([1, 2, 840, 10045, 2, 1], false),
  ([1, 2, 840, 113549, 1, 1, 1], true),
  ([1, 3, 101, 112], false)]

mutual

/-- What the first identifier of a kind of keys in a tree says. -/
def kindIn : Der.Block → Option Bool
  | .sequence items => kindAmong items
  | .identifier numbers => (keyKinds.find? (·.1 = numbers)).map Prod.snd
  | _ => none

/-- What the first identifier of a kind of keys in trees says. -/
def kindAmong : List Der.Block → Option Bool
  | [] => none
  | b :: bs => (kindIn b).or (kindAmong bs)

end

mutual

/-- The first string in a tree. -/
def stringIn : Der.Block → Option (List UInt8)
  | .sequence items => stringAmong items
  | .string octets => some octets
  | _ => none

/-- The first string in trees. -/
def stringAmong : List Der.Block → Option (List UInt8)
  | [] => none
  | b :: bs => (stringIn b).or (stringAmong bs)

end

/-- **The notation of a key in a PEM text**: the whole of it, or a string in the envelope that
says which kind of key it is. -/
def keyBytes (text : String) : Except TextFault (List UInt8) :=
  match (Pem.parse? text).bind fun p => (Der.blocks? p.contents).map fun bs => (p, bs) with
  | none => .error .invalidFormat
  | some (p, blocks) =>
    if p.label ∈ ["RSA PRIVATE KEY", "RSA PUBLIC KEY"] then .ok p.contents
    else if p.label ∈ ["PRIVATE KEY", "PUBLIC KEY", "CERTIFICATE"] && kindAmong blocks = some true
    then
      match stringAmong blocks with
      | some octets => .ok octets
      | none => .error .missingString
    else .error .invalidFormat

/-! ### Signatures -/

/-- What precedes the 32 bytes of a hash: the notation of its kind and length. -/
def digestHeader : List UInt8 :=
  [0x30, 0x31, 0x30, 0x0D, 0x06, 0x09, 0x60, 0x86, 0x48, 0x01, 0x65, 0x03, 0x04, 0x02, 0x01, 0x05,
    0x00, 0x04, 0x20]

/-- The hash of a message filled up to a number of bytes. -/
def filledDigest (size : Nat) (message : List UInt8) : List UInt8 :=
  let tail := digestHeader ++ Sha256.digest message
  0x00 :: 0x01 :: List.replicate (size - tail.length - 3) 0xFF ++ 0x00 :: tail

/-- The private power of a number, put together from its remainders modulo the two primes. -/
def Key.privatePower (k : Key) (c : Nat) : Nat :=
  let m1 := powMod k.prime1 (c % k.prime1) k.exponent1
  let m2 := powMod k.prime2 (c % k.prime2) k.exponent2
  let h := k.coefficient * (m1 + k.prime1 - m2 % k.prime1) % k.prime1
  (m2 + h * k.prime2) % k.modulus

/-- **A signature** of a message, if the key leads back from it. -/
def Key.sign? (k : Key) (message : List UInt8) : Option (List UInt8) :=
  let size := (bitLength k.modulus + 7) / 8
  let c := Der.number (filledDigest size message)
  let s := k.privatePower c
  if powMod k.modulus s k.publicExponent = c then some (Sha256.bigEndian size s) else none

theorem Key.pow_of_sign? {k : Key} {message s : List UInt8} (h : k.sign? message = some s) :
    ∃ n, s = Sha256.bigEndian ((bitLength k.modulus + 7) / 8) n ∧
      Nat.pow n k.publicExponent % k.modulus =
        Der.number (filledDigest ((bitLength k.modulus + 7) / 8) message) := by
  simp only [sign?] at h
  split at h
  case isTrue hc =>
    refine ⟨_, (Option.some.inj h).symm, ?_⟩
    rw [← powMod_eq]
    exact hc
  case isFalse => simp at h

end GceMachines.Rsa
