import GceMachines.Text.Utf8

/-!
# Base64

Three bytes are four signs of an alphabet of 64. The last group may hold one or two bytes; the
standard notation then fills it up with equals signs, the one for addresses leaves it short.

* `encode`: bytes in a notation.
* `decode?`: the bytes of a text in the standard notation. Every sequence of bytes has one such
  text only: the last group is filled up, and bits that belong to no byte are zero.
* `Fault`, `decode`, `decodeGroups`: what is wrong with a text that holds no bytes.
-/

namespace GceMachines.Base64

/-- A notation: its last two signs, and whether the last group is filled up. -/
structure Alphabet where
  sign62 : Char
  sign63 : Char
  filled : Bool
  deriving DecidableEq, Repr

/-- The standard notation. -/
def standard : Alphabet := ⟨'+', '/', true⟩

/-- The notation for addresses, without filling. -/
def forUrls : Alphabet := ⟨'-', '_', false⟩

/-- The sign of a number below 64. -/
def sign (a : Alphabet) (n : Nat) : Char :=
  if n < 26 then Char.ofNat (65 + n)
  else if n < 52 then Char.ofNat (71 + n)
  else if n < 62 then Char.ofNat (n - 4)
  else if n = 62 then a.sign62
  else a.sign63

/-- The first `count` of the four signs of 24 bits. -/
def signs (a : Alphabet) (count n : Nat) : List Char :=
  [n / 262144, n / 4096 % 64, n / 64 % 64, n % 64].take count |>.map (sign a)

/-- What fills a group up. -/
def filling (a : Alphabet) (n : Nat) : List Char := if a.filled then List.replicate n '=' else []

/-- **Bytes in a notation.** -/
def encodeChars (a : Alphabet) : List UInt8 → List Char
  | x :: y :: z :: rest =>
    signs a 4 (x.toNat * 65536 + y.toNat * 256 + z.toNat) ++ encodeChars a rest
  | [x, y] => signs a 3 (x.toNat * 65536 + y.toNat * 256) ++ filling a 1
  | [x] => signs a 2 (x.toNat * 65536) ++ filling a 2
  | [] => []

/-- Bytes as a text in a notation. -/
def encode (a : Alphabet) (bs : List UInt8) : String := String.ofList (encodeChars a bs)

/-- The number of a sign of the standard notation. -/
def value? (c : Char) : Option Nat :=
  let n := c.toNat
  if 65 ≤ n && n ≤ 90 then some (n - 65)
  else if 97 ≤ n && n ≤ 122 then some (n - 71)
  else if 48 ≤ n && n ≤ 57 then some (n + 4)
  else if c = '+' then some 62
  else if c = '/' then some 63
  else none

/-- The bytes of signs of the standard notation. -/
def decodeChars? : List Char → Option (List UInt8)
  | [] => some []
  | [a, b, '=', '='] => do
    let n := (← value? a) * 64 + (← value? b)
    if n % 16 = 0 then some [UInt8.ofNat (n / 16)] else none
  | [a, b, c, '='] => do
    let n := (← value? a) * 4096 + (← value? b) * 64 + (← value? c)
    if n % 4 = 0 then some [UInt8.ofNat (n / 1024), UInt8.ofNat (n / 4)] else none
  | a :: b :: c :: d :: rest => do
    let n := (← value? a) * 262144 + (← value? b) * 4096 + (← value? c) * 64 + (← value? d)
    let more ← decodeChars? rest
    return UInt8.ofNat (n / 65536) :: UInt8.ofNat (n / 256) :: UInt8.ofNat n :: more
  | _ => none

/-- **The bytes of a text** in the standard notation. -/
def decode? (s : String) : Option (List UInt8) := decodeChars? s.toList

/-! ### Texts that hold no bytes -/

/-- **What is wrong with a text.** Places count the bytes before. -/
inductive Fault
  /-- A byte that is no sign, or filling that something follows. -/
  | unexpected (place : Nat) (byte : UInt8)
  /-- One sign too many, which is not enough for a byte; also how many signs there are. -/
  | lonelySign (count : Nat)
  /-- The last sign has bits that belong to no byte. -/
  | surplusBits (place : Nat) (byte : UInt8)
  /-- The last group is not filled up. -/
  | unfilled
  deriving DecidableEq, Repr

/-- The wording of a byte at a place, behind what is said of it. -/
def placeText (what : String) (place : Nat) (byte : UInt8) : String :=
  what ++ " " ++ toString byte.toNat ++ ", offset " ++ toString place ++ "."

/-- The wording of a fault. -/
def Fault.message : Fault → String
  | .unexpected place byte => placeText "Invalid byte" place byte
  | .lonelySign _ => "Encoded text cannot have a 6-bit remainder."
  | .surplusBits place byte => placeText "Invalid last symbol" place byte
  | .unfilled => "Invalid padding"

/-- The wording of a fault in the terms of signs. -/
def Fault.signMessage : Fault → String
  | .unexpected place byte => placeText "Invalid symbol" place byte
  | .lonelySign count => "Invalid input length: " ++ toString count
  | f => f.message

/-- The byte of an equals sign. -/
def fillingByte : UInt8 := 61

/-- Whether a byte is a sign of the standard notation. -/
def isSign (b : UInt8) : Bool := (value? (Char.ofNat b.toNat)).isSome

/-- The first byte from a place on that is no sign. -/
def firstNonSign : (place : Nat) → List UInt8 → Option Fault
  | _, [] => none
  | place, b :: rest =>
    if isSign b then firstNonSign (place + 1) rest else some (.unexpected place b)

/-- The first fault of the bytes behind `done` of the last eight; filling began at `filled`, and
the last sign was `last`. -/
def lastFault (start : Nat) : (done : Nat) → (filled : Option Nat) → (last : Nat × UInt8) →
    List UInt8 → Fault
  | done, _, last, [] => if done % 4 = 0 then .surplusBits last.1 last.2 else .unfilled
  | done, filled, last, b :: rest =>
    let here := start + done
    if b = fillingByte then
      if done % 4 < 2 then .unexpected (filled.getD here) b
      else lastFault start (done + 1) (some (filled.getD here)) last rest
    else match filled with
      | some place => .unexpected place fillingByte
      | none =>
        if isSign b then lastFault start (done + 1) none (here, b) rest else .unexpected here b

/-- What is wrong with bytes that are no text in the standard notation. A lonely sign shows first,
then the faults in order; filling may only stand among the last eight bytes. -/
def fault (bs : List UInt8) : Fault :=
  let n := bs.length
  if n % 4 = 1 then
    match bs.getLast? with
    | some b => if b ≠ fillingByte && !isSign b then .unexpected (n - 1) b else .lonelySign n
    | none => .lonelySign n
  else
    let start := (n - 1) / 8 * 8
    match firstNonSign 0 (bs.take start) with
    | some f => f
    | none => lastFault start 0 none (start, fillingByte) (bs.drop start)

/-- What is wrong with bytes that are no text in the standard notation, where the groups of four
are looked at in order. A single byte behind them that is no sign shows first; filling may only
stand in the last group. -/
def groupFault (bs : List UInt8) : Fault :=
  let start := (bs.length - 1) / 4 * 4
  let before := firstNonSign 0 (bs.take start)
  match bs.drop start with
  | [b] =>
    if isSign b then before.getD (.lonelySign bs.length)
    else if b = fillingByte then before.getD (.unexpected start b)
    else .unexpected start b
  | last => before.getD (lastFault start 0 none (start, fillingByte) last)

/-- **The bytes of a text**, or what is wrong with it. -/
def decode (s : String) : Except Fault (List UInt8) :=
  match decode? s with
  | some bs => .ok bs
  | none => .error (fault (Utf8.encode s))

/-- The bytes of a text, or what is wrong with its groups. -/
def decodeGroups (s : String) : Except Fault (List UInt8) :=
  match decode? s with
  | some bs => .ok bs
  | none => .error (groupFault (Utf8.encode s))

theorem decode_eq_ok_iff {s : String} {bs : List UInt8} :
    decode s = .ok bs ↔ decode? s = some bs := by
  unfold decode
  split <;> simp_all

end GceMachines.Base64
