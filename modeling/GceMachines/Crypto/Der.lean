import GceMachines.Text.Calendar
import GceMachines.Text.Utf8

/-!
# DER

Keys are trees of tagged elements. An element is a tag, the length of its contents and the
contents themselves. The contents of an element of a standard kind have to be of that kind.

* `Der.element?`: the element at the front of some bytes.
* `Der.blocks?`: bytes as a sequence of trees, of which only sequences, object identifiers and
  strings of bits or octets are told apart.
-/

namespace GceMachines.Der

/-- **A tagged element.** -/
structure Element where
  /-- The first octet of the tag: the kind of element, and whether it consists of others. -/
  tag : UInt8
  /-- The number of the tag. -/
  number : Nat
  contents : List UInt8
  /-- Whether the tag and the length are written in the shortest way. -/
  canonical : Bool
  deriving DecidableEq, Repr

/-- Bytes as a number, the highest byte first. -/
def number (bs : List UInt8) : Nat := bs.foldl (fun n b => n * 256 + b.toNat) 0

/-- A number in octets of seven bits each, behind what is read of it already. All octets but the
last have their high bit. -/
def sevens? (n : Nat) : List UInt8 → Option (Nat × List UInt8)
  | [] => none
  | b :: rest =>
    let n := n * 128 + b.toNat % 128
    if b < 0x80 then some (n, rest) else sevens? n rest

/-- A length, whether it is written in the shortest way, and what follows it. -/
def length? : List UInt8 → Option (Nat × Bool × List UInt8)
  | [] => none
  | b :: rest =>
    if b < 0x80 then some (b.toNat, true, rest)
    else
      let count := b.toNat - 0x80
      if 8 < count || rest.length < count then none
      else
        let n := number (rest.take count)
        some (n, 0x80 ≤ n && Nat.pow 256 (count - 1) ≤ n && count ≤ 2, rest.drop count)

/-- **The element at the front** and what follows it. -/
def element? : List UInt8 → Option (Element × List UInt8)
  | [] => none
  | tag :: rest => do
    let long := tag &&& 0x1F == 0x1F
    let (number, rest) ← if long then sevens? 0 rest else some (tag.toNat % 32, rest)
    let (n, shortest, rest) ← length? rest
    if rest.length < n then none
    else some (⟨tag, number, rest.take n, shortest && !long⟩, rest.drop n)

/-- The tag of whole numbers. -/
def integerTag : UInt8 := 0x02

/-- The tag of sequences. -/
def sequenceTag : UInt8 := 0x30

/-- **A tree of elements.** -/
inductive Block
  | sequence (items : List Block)
  | identifier (numbers : List Nat)
  /-- A string of octets, or of bits that fill octets. -/
  | string (octets : List UInt8)
  | other

/-! ### Contents of the standard kinds -/

/-- The numbers behind each other in octets of seven bits, at most as many as `fuel`. -/
def manySevens? : (fuel : Nat) → List UInt8 → Option (List Nat)
  | _, [] => some []
  | 0, _ => none
  | fuel + 1, bs => do
    let (n, rest) ← sevens? 0 bs
    return n :: (← manySevens? fuel rest)

/-- The numbers of an object identifier. The first octet stands for two of them. -/
def identifierOf : List UInt8 → Option (List Nat)
  | [] => none
  | b :: rest =>
    let n := b.toNat
    let front := if n < 40 then [0, n] else if n < 80 then [1, n - 40] else [2, n - 80]
    (manySevens? rest.length rest).map (front ++ ·)

/-- The bits of a bit string, whose first octet says how many at its end do not count. -/
def bitsOf : List UInt8 → Option (List UInt8)
  | [] => some []
  | unused :: octets => if octets.length * 8 < unused.toNat then none else some octets

/-- Octets as characters, if they are text. -/
def isText (octets : List UInt8) : Bool := (Utf8.decode? octets).isSome

/-- Octets as characters with the same numbers. -/
def charsOf (octets : List UInt8) : List Char := octets.map fun b => Char.ofNat b.toNat

/-- Whether a character is one of the few that all devices print. -/
def isPrintable (c : Char) : Bool :=
  c.isAlphanum || c ∈ [' ', '\'', '(', ')', '+', ',', '-', '.', '/', ':', '=', '?']

/-- Whether characters are a moment with a year of two digits: from 1950 on. -/
def isShortMoment (cs : List Char) : Bool :=
  match Text.digitRuns? [2, 2, 2, 2, 2, 2] cs with
  | some (year :: rest, ['Z']) =>
    Text.isMoment ((if 50 ≤ year then 1900 + year else 2000 + year) :: rest)
  | _ => false

/-- The characters of a moment with nine places behind the point of the seconds, which may be
missing. -/
def filledMoment (cs : List Char) : List Char :=
  let cs := if cs.contains '.' then cs else cs.take 14 ++ '.' :: cs.drop 14
  cs.dropLast ++ List.replicate (25 - cs.length) '0' ++ cs.getLast?.toList

/-- Whether characters are a moment with a year of four digits and perhaps parts of a second. -/
def isLongMoment (cs : List Char) : Bool :=
  let unsigned := match filledMoment cs with
    | '+' :: rest => rest
    | '-' :: rest => rest
    | rest => rest
  15 ≤ cs.length && cs.all (·.toNat < 128) &&
    match Text.digitRuns? [4, 2, 2, 2, 2, 2] unsigned with
    | some (numbers, '.' :: rest) =>
      Text.isMoment numbers && ((Text.digitsOf? 9 rest).map (·.2)) == some ['Z']
    | _ => false

/-- A string of bits or octets, an object identifier or a leaf that is not looked into, if the
contents of an element are of its kind. -/
def leaf? (number : Nat) (octets : List UInt8) : Option Block :=
  let checked (ok : Bool) : Option Block := if ok then some .other else none
  match number with
  | 0x01 => checked (octets.length == 1)
  | 0x03 => (bitsOf octets).map .string
  | 0x04 => some (.string octets)
  | 0x06 => (identifierOf octets).map .identifier
  | 0x13 => checked ((charsOf octets).all isPrintable)
  | 0x16 => checked (octets.all (· < 0x80))
  | 0x17 => checked (isShortMoment (charsOf octets))
  | 0x18 => checked (isLongMoment (charsOf octets))
  | _ => checked (number ∉ [0x0C, 0x14, 0x1C, 0x1E] || isText octets)

/-! ### Trees -/

/-- An element as a tree, where `inside` reads the contents of those that consist of others. A tag
of a kind that is not standard says nothing about the contents. -/
def Element.block? (inside : List UInt8 → Option (List Block)) (e : Element) : Option Block :=
  if 0x40 ≤ e.tag then some .other
  else if e.number = 0x10 then (inside e.contents).map .sequence
  else if e.number = 0x11 then (inside e.contents).map fun _ => .other
  else leaf? e.number e.contents

/-- Bytes as trees; every element takes two bytes at least, so that `n` of them leave no tree
unread. -/
def blocksWithin : (n : Nat) → List UInt8 → Option (List Block)
  | 0, _ => none
  | n + 1, bs => do
    let (e, rest) ← element? bs
    let b ← e.block? (blocksWithin n)
    if rest.isEmpty then return [b] else return b :: (← blocksWithin n rest)

/-- **Bytes as trees**, at least one. -/
def blocks? (bs : List UInt8) : Option (List Block) := blocksWithin (bs.length + 1) bs

end GceMachines.Der
