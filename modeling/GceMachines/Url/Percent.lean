import GceMachines.Text.Utf8

/-!
# Percent encoding

Bytes that may not stand for themselves in a part of an address are written as a percent sign and
two hexadecimal digits. Each part has its own set of bytes that stand for themselves.

* `percentEncode`: a text for a part of an address.
* `percentDecode`, `percentText?`: the bytes that an encoded text stands for, and their text.
* `formEncode`: a text in a form, where a space is a plus sign.
-/

namespace GceMachines.Url

/-- An upper-case hexadecimal digit. -/
def upperHex (n : Nat) : Char := if n < 10 then Char.ofNat (48 + n) else Char.ofNat (55 + n)

/-- A byte as a percent sign and two digits. -/
def percentByte (b : UInt8) : List Char := ['%', upperHex (b.toNat / 16), upperHex (b.toNat % 16)]

/-- Bytes, of which those in a set stand for themselves. -/
def percentChars (plain : UInt8 → Bool) (bs : List UInt8) : List Char :=
  bs.flatMap fun b => if plain b then [Char.ofNat b.toNat] else percentByte b

/-- **A text for a part of an address.** -/
def percentEncode (plain : UInt8 → Bool) (s : String) : String :=
  String.ofList (percentChars plain (Utf8.encode s))

/-- Printable ASCII without some characters. -/
def printableBut (except : List Char) (b : UInt8) : Bool :=
  0x20 ≤ b && b < 0x7F && Char.ofNat b.toNat ∉ except

/-- What stands for itself in a fragment. -/
def fragmentPlain : UInt8 → Bool := printableBut [' ', '"', '<', '>', '\x60']

/-- What stands for itself in a query. -/
def queryPlain : UInt8 → Bool := printableBut [' ', '"', '#', '<', '>']

/-- What stands for itself in a query of a web address. -/
def webQueryPlain : UInt8 → Bool := printableBut [' ', '"', '#', '<', '>', '\'']

/-- The characters that are escaped in a path. -/
def pathEscapes : List Char := [' ', '"', '#', '<', '>', '?', '\x60', '\x7b', '\x7d']

/-- What stands for itself in a path. -/
def pathPlain : UInt8 → Bool := printableBut pathEscapes

/-- What stands for itself in a segment that is put into a path. -/
def segmentPlain : UInt8 → Bool := printableBut (pathEscapes ++ ['/', '%'])

/-- What stands for itself in a segment that is put into the path of a web address. -/
def webSegmentPlain : UInt8 → Bool := printableBut (pathEscapes ++ ['/', '%', '\\'])

/-- What stands for itself in a user name or a password. -/
def userPlain : UInt8 → Bool :=
  printableBut (pathEscapes ++ ['/', ':', ';', '=', '@', '[', '\\', ']', '^', '|'])

/-- What stands for itself in a host that is not looked into. -/
def hostPlain : UInt8 → Bool := printableBut []

/-- What stands for itself in a form: letters, digits and four marks. -/
def formPlain (b : UInt8) : Bool :=
  let c := Char.ofNat b.toNat
  b < 0x80 && (c.isAlphanum || c == '*' || c == '-' || c == '.' || c == '_')

/-- **A text in a form.** -/
def formEncode (s : String) : String :=
  String.ofList ((Utf8.encode s).flatMap fun b =>
    if b == 0x20 then ['+'] else if formPlain b then [Char.ofNat b.toNat] else percentByte b)

/-- The value of a hexadecimal digit. -/
def hexValue? (b : UInt8) : Option UInt8 :=
  if 0x30 ≤ b && b ≤ 0x39 then some (b - 0x30)
  else if 0x61 ≤ b && b ≤ 0x66 then some (b - 0x57)
  else if 0x41 ≤ b && b ≤ 0x46 then some (b - 0x37)
  else none

/-- **The bytes of an encoded text.** A percent sign without two digits stands for itself. -/
def percentDecode : List UInt8 → List UInt8
  | 0x25 :: a :: b :: rest =>
    match hexValue? a, hexValue? b with
    | some x, some y => (x * 16 + y) :: percentDecode rest
    | _, _ => 0x25 :: percentDecode (a :: b :: rest)
  | b :: rest => b :: percentDecode rest
  | [] => []

theorem percentDecode_nil : percentDecode [] = [] := rfl

/-- **The text that an encoded one stands for**, if it is one. -/
def percentText? (written : String) : Option String :=
  Utf8.decode? (percentDecode (Utf8.encode written))

end GceMachines.Url
