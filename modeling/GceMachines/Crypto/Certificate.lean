import GceMachines.Crypto.Der

/-!
# Certificates

A certificate is a sequence of what is certified, of the kind of signature and of the signature. A
certificate of the third version says so in front; one of the first version says nothing about its
version and ends with the key.

* `Certificate.isWellFormed`: whether bytes are a certificate whose parts are where they belong.
-/

namespace GceMachines.Certificate

/-- The contents of elements with some tags in order, and what follows them. -/
def parts? : (tags : List UInt8) → List UInt8 → Option (List (List UInt8) × List UInt8)
  | [], bs => some ([], bs)
  | tag :: tags, bs => do
    let (e, rest) ← Der.element? bs
    if e.tag = tag && e.canonical then
      let (more, rest) ← parts? tags rest
      return (e.contents :: more, rest)
    else none

/-- The contents of elements with some tags, if they are all there is. -/
def whole? (tags : List UInt8) (bs : List UInt8) : Option (List (List UInt8)) :=
  (parts? tags bs).bind fun (contents, rest) => if rest.isEmpty then some contents else none

/-- The tag of strings of bits. -/
def bitsTag : UInt8 := 0x03

/-- The tag of the version. -/
def versionTag : UInt8 := 0xA0

/-- The tag of the extensions. -/
def extensionsTag : UInt8 := 0xA3

/-- The contents of the element of the third version. -/
def thirdVersion : List UInt8 := [0x02, 0x01, 0x02]

/-- The tags of what is certified behind the version: a number, the kind of signature, the issuer,
the validity, the subject and its key. -/
def subjectTags : List UInt8 :=
  Der.integerTag :: List.replicate 5 Der.sequenceTag

/-- Whether bytes are sequences, at most as many as `fuel`. -/
def areSequences : (fuel : Nat) → List UInt8 → Bool
  | _, [] => true
  | 0, _ => false
  | fuel + 1, bs =>
    match parts? [Der.sequenceTag] bs with
    | some (_, rest) => areSequences fuel rest
    | none => false

/-- Whether bytes are the extensions that end what is certified, or nothing. -/
def areExtensions (bs : List UInt8) : Bool :=
  bs.isEmpty ||
    (((whole? [extensionsTag] bs).bind fun outer =>
      whole? [Der.sequenceTag] outer.flatten).any fun inner =>
        areSequences bs.length inner.flatten)

/-- Whether bytes say what is certified. -/
def isSubject (bs : List UInt8) : Bool :=
  match parts? (versionTag :: subjectTags) bs with
  | some (version :: _, rest) => version = thirdVersion && areExtensions rest
  | _ => (whole? subjectTags bs).isSome

/-- **Whether bytes are a certificate** whose parts are where they belong. -/
def isWellFormed (bs : List UInt8) : Bool :=
  match (whole? [Der.sequenceTag] bs).bind fun outer =>
      whole? [Der.sequenceTag, Der.sequenceTag, bitsTag] outer.flatten with
  | some (subject :: _) => isSubject subject
  | _ => false

end GceMachines.Certificate
