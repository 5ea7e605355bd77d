import GceMachines.Json.Document
import GceMachines.Text.Utf8

/-!
# String literals

A string literal is a run of plain bytes and escapes up to the closing quote. Whether it is well
written depends on its parts alone; its value also needs the surrogate escapes to come in pairs
and the bytes to be UTF-8.

* `scan`: the parts of a literal, how it ends, and what follows it.
* `Literal.value`: the text that the parts stand for.
-/

namespace GceMachines.Json

/-- One part of a string literal. -/
inductive Part
  | byte (b : UInt8)
  /-- A character written by its short escape. -/
  | escaped (c : Char)
  /-- A number below `2 ^ 16` written with four hexadecimal digits. -/
  | unit (n : Nat)
  deriving DecidableEq, Repr

/-- How a string literal ends. -/
inductive Ending
  | closed
  | cut
  | control
  /-- A backslash before a character that no escape starts with. -/
  | badEscape
  /-- Four characters that are not hexadecimal digits. -/
  | badDigits
  deriving DecidableEq, Repr

/-- What is wrong with the way a literal is written. -/
def Ending.skip : Ending → Except Fault Unit
  | .closed => .ok ()
  | .cut => .error .endInString
  | .control => .error .controlCharacter
  | .badEscape => .error .invalidEscape
  | .badDigits => .error .invalidEscape

/-- The character of a short escape. -/
def shortEscape? (b : UInt8) : Option Char :=
  if b == 0x22 then some '"'
  else if b == 0x5C then some '\\'
  else if b == 0x2F then some '/'
  else if b == 0x62 then some '\x08'
  else if b == 0x66 then some '\x0C'
  else if b == 0x6E then some '\n'
  else if b == 0x72 then some '\r'
  else if b == 0x74 then some '\t'
  else none

/-- The value of a hexadecimal digit. -/
def hexDigit? (b : UInt8) : Option Nat :=
  if 0x30 ≤ b && b ≤ 0x39 then some (b.toNat - 0x30)
  else if 0x61 ≤ b && b ≤ 0x66 then some (b.toNat - 0x57)
  else if 0x41 ≤ b && b ≤ 0x46 then some (b.toNat - 0x37)
  else none

/-- The number written with four hexadecimal digits. -/
def hex4? (a b c d : UInt8) : Option Nat := do
  let w ← hexDigit? a
  let x ← hexDigit? b
  let y ← hexDigit? c
  let z ← hexDigit? d
  return ((w * 16 + x) * 16 + y) * 16 + z

/-- A literal taken apart. -/
structure Literal where
  parts : List Part
  ending : Ending
  rest : List UInt8

/-- A literal with one more part in front. -/
def Literal.push (p : Part) (l : Literal) : Literal := { l with parts := p :: l.parts }

/-- **The literal behind an opening quote.** -/
def scan : List UInt8 → Literal
  | [] => ⟨[], .cut, []⟩
  | 0x5C :: 0x75 :: a :: b :: c :: d :: rest =>
    match hex4? a b c d with
    | some n => (scan rest).push (.unit n)
    | none => ⟨[], .badDigits, rest⟩
  | 0x5C :: 0x75 :: _ => ⟨[], .cut, []⟩
  | 0x5C :: [] => ⟨[], .cut, []⟩
  | 0x5C :: e :: rest =>
    match shortEscape? e with
    | some c => (scan rest).push (.escaped c)
    | none => ⟨[], .badEscape, rest⟩
  | b :: rest =>
    if b == 0x22 then ⟨[], .closed, rest⟩
    else if b < 0x20 then ⟨[], .control, rest⟩
    else (scan rest).push (.byte b)

/-- Whether a number is the first half of a surrogate pair. -/
def isLeading (n : Nat) : Bool := 0xD800 ≤ n && n ≤ 0xDBFF

/-- Whether a number is the second half of a surrogate pair. -/
def isTrailing (n : Nat) : Bool := 0xDC00 ≤ n && n ≤ 0xDFFF

/-- The character of a surrogate pair. -/
def pairChar (n m : Nat) : Char := Char.ofNat (0x10000 + (n - 0xD800) * 0x400 + (m - 0xDC00))

/-- The fault of a leading half that no escape of a number follows. -/
def Ending.afterLeading : Ending → Fault
  | .cut => .endInString
  | .badDigits => .invalidEscape
  | _ => .unpairedEscape

/-- The bytes that parts stand for. -/
def bytesOf (ending : Ending) : List Part → Except Fault (List UInt8)
  | [] => ending.skip.map fun _ => []
  | .byte b :: ps => (bytesOf ending ps).map (b :: ·)
  | .escaped c :: ps => (bytesOf ending ps).map (Utf8.encode c.toString ++ ·)
  | .unit n :: ps =>
    if isTrailing n then .error .loneSurrogate
    else if isLeading n then
      match ps with
      | .unit m :: ps' =>
        if isTrailing m then (bytesOf ending ps').map (Utf8.encode (pairChar n m).toString ++ ·)
        else .error .loneSurrogate
      | [] => .error ending.afterLeading
      | _ => .error .unpairedEscape
    else (bytesOf ending ps).map (Utf8.encode (Char.ofNat n).toString ++ ·)

/-- **The text that a literal stands for.** -/
def Literal.value (l : Literal) : Except Fault String :=
  (bytesOf l.ending l.parts).bind fun bs =>
    match Utf8.decode? bs with
    | some s => .ok s
    | none => .error .invalidCodePoint

/-- A literal as a token. -/
def stringToken (bs : List UInt8) : Token String × Option (List UInt8) :=
  let l := scan bs
  (⟨l.value, l.ending.skip⟩, if l.ending = .closed then some l.rest else none)

end GceMachines.Json
