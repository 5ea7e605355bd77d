/-!
# Host names beyond ASCII

A label of a host name that holds other than ASCII characters is written in ASCII: first the ASCII
characters, then, in ascending order of the others, the distances between the places where they
are put in, as numbers of variable length whose digits adapt to the size of the distances.

* `Punycode.encode`, `Punycode.decode?`: a label and its ASCII form, without the mark in front.
-/

namespace GceMachines.Url.Punycode

/-- A digit: letters come first. -/
def digitChar (d : Nat) : Char :=
  if d < 26 then Char.ofNat (97 + d) else Char.ofNat (22 + d)

/-- The value of a digit. -/
def digitValue? (c : Char) : Option Nat :=
  if 'a' ≤ c && c ≤ 'z' then some (c.toNat - 97)
  else if 'A' ≤ c && c ≤ 'Z' then some (c.toNat - 65)
  else if '0' ≤ c && c ≤ '9' then some (c.toNat - 22)
  else none

/-- The threshold of the digit at a position that is a multiple of 36. -/
def threshold (position bias : Nat) : Nat := max 1 (min 26 (position - bias))

theorem threshold_pos (position bias : Nat) : 1 ≤ threshold position bias := Nat.le_max_left _ _

/-- Divides a distance until it is small, and counts. -/
def settle (distance count : Nat) : Nat × Nat :=
  if 455 < distance then settle (distance / 35) (count + 36) else (distance, count)
termination_by distance
decreasing_by exact Nat.div_lt_self (by omega) (by omega)

/-- The bias after a distance, when there are `points` characters. -/
def adapt (distance points : Nat) (first : Bool) : Nat :=
  let d := if first then distance / 700 else distance / 2
  let (d, count) := settle (d + d / points) 0
  count + 36 * d / (d + 38)

/-- A distance as digits, from a position on. -/
def digits (bias position distance : Nat) : List Char :=
  let t := threshold position bias
  if distance < t then [digitChar distance]
  else
    digitChar (t + (distance - t) % (36 - t)) ::
      digits bias (position + 36) ((distance - t) / (36 - t))
termination_by distance
decreasing_by
  have := threshold_pos position bias
  exact Nat.lt_of_le_of_lt (Nat.div_le_self _ _) (by omega)

/-- Where writing is. -/
structure Writer where
  out : List Char
  distance : Nat
  bias : Nat
  /-- How many characters are written. -/
  handled : Nat

/-- Goes past one character while the characters with number `n` are put in. -/
def Writer.pass (basic n : Nat) (w : Writer) (c : Char) : Writer :=
  if c.toNat < n then { w with distance := w.distance + 1 }
  else if c.toNat = n then
    { out := w.out ++ digits w.bias 36 w.distance
      distance := 0
      bias := adapt w.distance (w.handled + 1) (w.handled == basic)
      handled := w.handled + 1 }
  else w

/-- Puts in the characters with the numbers given, which are all those from `n` on. -/
def Writer.rounds (label : List Char) (basic : Nat) : List Nat → (n : Nat) → Writer → Writer
  | [], _, w => w
  | m :: ms, n, w =>
    let w : Writer := { w with distance := w.distance + (m - n) * (w.handled + 1) }
    let w := label.foldl (Writer.pass basic m) w
    rounds label basic ms (m + 1) { w with distance := w.distance + 1 }

/-- The ASCII form of a label. -/
def encode (label : List Char) : List Char :=
  let basic := label.filter (·.toNat < 128)
  let numbers := ((label.filter (128 ≤ ·.toNat)).map Char.toNat).mergeSort.eraseDups
  let w := Writer.rounds label basic.length numbers 128 ⟨[], 0, 72, basic.length⟩
  (if basic.isEmpty then [] else basic ++ ['-']) ++ w.out

/-- A number of variable length, and what follows it. -/
def readDistance (bias : Nat) : List Char → (position weight : Nat) → Option (Nat × List Char)
  | [], _, _ => none
  | c :: cs, position, weight => do
    let d ← digitValue? c
    let t := threshold position bias
    if d < t then return (d * weight, cs)
    else
      let (n, rest) ← readDistance bias cs (position + 36) (weight * (36 - t))
      return (d * weight + n, rest)

/-- Puts in characters, one for each distance. -/
def readRounds : (fuel : Nat) → List Char → (n place bias : Nat) → List Char → Option (List Char)
  | _, [], _, _, _, out => some out
  | 0, _, _, _, _, _ => none
  | fuel + 1, cs, n, place, bias, out => do
    let (distance, rest) ← readDistance bias cs 36 1
    let points := out.length + 1
    let total := place + distance
    let n := n + total / points
    let spot := total % points
    if n < 0x110000 && !(0xD800 ≤ n && n ≤ 0xDFFF) then
      readRounds fuel rest n (spot + 1) (adapt distance points (place == 0))
        (out.take spot ++ Char.ofNat n :: out.drop spot)
    else none

/-- The label of an ASCII form. -/
def decode? (text : List Char) : Option (List Char) :=
  let after := (text.reverse.takeWhile (· ≠ '-')).reverse
  let basic := text.take (text.length - after.length - 1)
  readRounds (after.length + 1) after 128 0 72 basic

end GceMachines.Url.Punycode
