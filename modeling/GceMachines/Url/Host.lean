import GceMachines.Url.Name.Label
import GceMachines.Url.Percent

/-!
# Hosts of addresses

The host of a web address is a name, or a number in one of the notations of the Internet protocol.
A name is brought into ASCII and lower case. If its last label is a number, the whole is a number
of version four, in the loose notation with up to four parts in three bases.

* `Host.parse`: the host of a web address.
* `Host.parseOther`: the host of any other address, which is not looked into.
* `Host.text`: the canonical notation.
-/

namespace GceMachines

/-- Why a text is no address. -/
inductive UrlError
  | relativeWithoutBase
  | emptyHost
  | invalidPort
  | invalidIpv4
  | invalidIpv6
  | invalidDomainName
  | invalidDomainCharacter
  deriving DecidableEq, Repr

/-- The wording of a refusal. -/
def UrlError.message : UrlError → String
  | .relativeWithoutBase => "relative URL without a base"
  | .emptyHost => "empty host"
  | .invalidPort => "invalid port number"
  | .invalidIpv4 => "invalid IPv4 address"
  | .invalidIpv6 => "invalid IPv6 address"
  | .invalidDomainName => "invalid international domain name"
  | .invalidDomainCharacter => "invalid domain character"

namespace Url

/-- **The host of an address.** -/
inductive Host
  /-- A name, in ASCII. -/
  | domain (name : String)
  | ipv4 (address : Nat)
  /-- Eight numbers of 16 bits. -/
  | ipv6 (pieces : List Nat)
  /-- A host of an address that is no web address. -/
  | other (text : String)
  deriving DecidableEq, Repr

namespace Host

/-! ### Numbers of version four -/

/-- A part of a number: hexadecimal, octal or decimal, as its beginning says. -/
def ipv4Part? (cs : List Char) : Option Nat :=
  let read (base : Nat) (ds : List Char) := Text.ofDigits? base ds
  match cs with
  | [] => none
  | '0' :: 'x' :: ds => read 16 ds
  | '0' :: 'X' :: ds => read 16 ds
  | '0' :: d :: ds => read 8 (d :: ds)
  | ds => read 10 ds

/-- The parts of a name without the empty one behind a last point. -/
def labels (name : List Char) : List (List Char) :=
  let parts := name.splitOn '.'
  match parts.reverse with
  | [] :: rest => if rest.isEmpty then parts else rest.reverse
  | _ => parts

/-- Whether the last label of a name is a number. -/
def endsInNumber (name : List Char) : Bool :=
  match (labels name).getLast? with
  | none => false
  | some last =>
    !last.isEmpty && (last.all Char.isDigit || (ipv4Part? last).isSome)

/-- The address of parts, of which the last one fills what the others leave. -/
def ipv4OfParts (parts : List Nat) : Option Nat :=
  match parts.reverse with
  | [] => none
  | last :: before =>
    let n := before.length
    if 3 < n || before.any (255 < ·) || Nat.pow 256 (4 - n) ≤ last then none
    else some (before.reverse.zipIdx.foldl (fun a (p, i) => a + p * Nat.pow 256 (3 - i)) last)

/-- A number of version four. -/
def parseIpv4 (name : List Char) : Except UrlError Host :=
  match ((labels name).mapM ipv4Part?).bind ipv4OfParts with
  | some a => .ok (.ipv4 a)
  | none => .error .invalidIpv4

/-- The notation with four decimal numbers. -/
def ipv4Text (a : Nat) : String :=
  ".".intercalate ([3, 2, 1, 0].map fun i => toString (a / Nat.pow 256 i % 256))

/-! ### Numbers of version six -/

/-- A number of one to four hexadecimal digits. -/
def hexPiece? (cs : List Char) : Option Nat :=
  if cs.isEmpty || 4 < cs.length then none else Text.ofDigits? 16 cs

/-- A decimal number below 256, without zeros in front. -/
def decimalByte? (cs : List Char) : Option Nat :=
  match cs with
  | [] => none
  | '0' :: _ :: _ => none
  | ds => (Text.ofDigits? 10 ds).bind fun n => if n < 256 then some n else none

/-- The two pieces of a number of version four that stands at the end. -/
def embedded? (cs : List Char) : Option (List Nat) :=
  match (cs.splitOn '.').mapM decimalByte? with
  | some [a, b, c, d] => some [a * 256 + b, c * 256 + d]
  | _ => none

/-- The pieces between colons; the last one may be a number of version four. -/
def pieces? (cs : List Char) : Option (List Nat) :=
  if cs.isEmpty then some []
  else
    let parts := cs.splitOn ':'
    match parts.reverse with
    | [] => none
    | last :: before => do
      let front ← before.reverse.mapM hexPiece?
      let back ← if last.contains '.' then embedded? last else (hexPiece? last).map ([·])
      return front ++ back

/-- The text before the first pair of colons and the text after it. -/
def splitGap : List Char → Option (List Char × List Char)
  | ':' :: ':' :: rest => some ([], rest)
  | c :: rest => (splitGap rest).map fun (a, b) => (c :: a, b)
  | [] => none

/-- A number of version six; a pair of colons stands for zeros. -/
def parseIpv6 (cs : List Char) : Except UrlError Host :=
  let pieces : Option (List Nat) :=
    match splitGap cs with
    | none => (pieces? cs).bind fun ps => if ps.length = 8 then some ps else none
    | some (front, back) => do
      let a ← if front.contains '.' then none else pieces? front
      let b ← pieces? back
      if a.length + b.length < 8 then
        some (a ++ List.replicate (8 - a.length - b.length) 0 ++ b)
      else none
  match pieces with
  | some ps => .ok (.ipv6 ps)
  | none => .error .invalidIpv6

/-- The longest run of at least two zeros, the first of several: where it starts and ends. -/
def zeroRun (ps : List Nat) : Option (Nat × Nat) :=
  let runs := (List.range 8).map fun i => (i, ((ps.drop i).takeWhile (· == 0)).length)
  let best := runs.foldl (fun (b : Nat × Nat) r => if b.2 < r.2 then r else b) (0, 0)
  if 2 ≤ best.2 then some (best.1, best.1 + best.2) else none

/-- The notation with colons. -/
def ipv6Text (ps : List Nat) : String :=
  let join (ps : List Nat) := ":".intercalate (ps.map fun p => String.ofList (Nat.toDigits 16 p))
  match zeroRun ps with
  | none => join ps
  | some (start, stop) => join (ps.take start) ++ "::" ++ join (ps.drop stop)

/-! ### Hosts -/

/-- **The host of a web address.** -/
def parse (text : List Char) : Except UrlError Host :=
  match text with
  | '[' :: rest =>
    if rest.getLast? = some ']' then parseIpv6 rest.dropLast else .error .invalidIpv6
  | _ =>
    match (Utf8.decode? (percentDecode (Utf8.encode (String.ofList text)))).bind fun s =>
        Name.ascii? s.toList with
    | none => .error .invalidDomainName
    | some [] => .error .emptyHost
    | some name =>
      if endsInNumber name then parseIpv4 name else .ok (.domain (String.ofList name))

/-- **The host of another address.** -/
def parseOther (text : List Char) : Except UrlError Host :=
  match text with
  | '[' :: rest =>
    if rest.getLast? = some ']' then parseIpv6 rest.dropLast else .error .invalidIpv6
  | _ =>
    if text.any fun c => c != '%' && (c == '\x00' || c == ' ' ||
        c ∈ ['#', '/', ':', '<', '>', '?', '@', '[', '\\', ']', '^', '|']) then
      .error .invalidDomainCharacter
    else .ok (.other (percentEncode hostPlain (String.ofList text)))

/-- The canonical notation of a host. -/
def text : Host → String
  | .domain name => name
  | .ipv4 a => ipv4Text a
  | .ipv6 ps => "[" ++ ipv6Text ps ++ "]"
  | .other s => s

end Host

end Url

end GceMachines
