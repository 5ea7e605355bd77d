import GceMachines.Text.Integer
import GceMachines.Text.Split
import GceMachines.Text.Utf8

/-!
# Identifiers of resources

A message names the resource that it is sent to by an identifier. Unlike an address, an identifier
is not brought into a canonical notation: its characters are checked and its parts are kept as they
are written. It is a scheme, an authority and a path with its query, or an authority alone, or a
path alone.

* `Uri.parse`: the identifier of a text.
* `UriFault`: why a text is no identifier.
* `Uri.host`, `Uri.port`: the server that an identifier names.
-/

namespace GceMachines.Http

/-- **Why a text is no identifier.** -/
inductive UriFault
  | empty
  | tooLong
  | invalidCharacter
  | schemeTooLong
  | invalidAuthority
  | invalidFormat
  deriving DecidableEq, Repr

/-- The wording of a fault. -/
def UriFault.message : UriFault → String
  | .empty => "empty string"
  | .tooLong => "uri too long"
  | .invalidCharacter => "invalid uri character"
  | .schemeTooLong => "scheme too long"
  | .invalidAuthority => "invalid authority"
  | .invalidFormat => "invalid format"

/-- **An identifier of a resource.** -/
structure Uri where
  /-- The scheme; that of the web is in lower case. -/
  scheme : Option String
  /-- The host, perhaps with a user before it and a port behind it. -/
  authority : String
  /-- The path and the query, as they are written. -/
  target : String
  deriving DecidableEq, Repr

namespace Uri

/-- How many bytes an identifier has at most. -/
def maxLength : Nat := 65534

/-- How many characters a scheme has at most. -/
def maxScheme : Nat := 64

/-- How many colons stand in an authority at most, outside brackets and users. -/
def maxColons : Nat := 8

/-! ### Schemes -/

/-- Whether a character may stand in a scheme. -/
def isSchemeChar (c : Char) : Bool := c.isAlphanum || c == '+' || c == '-' || c == '.'

/-- The scheme at the front of a text and what follows its two slashes, if it has one. -/
def splitScheme (cs : List Char) : Except UriFault (Option (List Char × List Char)) :=
  let scheme := cs.takeWhile isSchemeChar
  match cs.dropWhile isSchemeChar with
  | ':' :: '/' :: '/' :: rest =>
    let lower := scheme.map Char.toLower
    if lower = "http".toList || lower = "https".toList then .ok (some (lower, rest))
    else if maxScheme < scheme.length then .error .schemeTooLong
    else .ok (some (scheme, rest))
  | _ => .ok none

/-! ### Authorities -/

/-- What was met in an authority so far. -/
structure Scan where
  colons : Nat
  opened : Bool
  closed : Bool
  percent : Bool
  /-- Whether the last character ends a user. -/
  afterUser : Bool

/-- Marks that may stand in an authority. -/
def authorityMarks : List Char :=
  ['!', '$', '&', '\'', '(', ')', '*', '+', ',', '-', '.', ';', '=', '_', '~']

/-- Whether a character may stand in the name of a host. -/
def isNameChar (c : Char) : Bool := c.isAlphanum || c ∈ authorityMarks

/-- Goes past one character of an authority. Colons and percent signs of a user or in brackets do
not count. -/
def Scan.step (s : Scan) (c : Char) : Except UriFault Scan :=
  let s := { s with afterUser := false }
  if c = ':' then
    if maxColons ≤ s.colons then .error .invalidAuthority
    else .ok { s with colons := s.colons + 1 }
  else if c = '[' then
    if s.percent || s.opened then .error .invalidAuthority else .ok { s with opened := true }
  else if c = ']' then
    if !s.opened || s.closed then .error .invalidAuthority
    else .ok { s with closed := true, colons := 0, percent := false }
  else if c = '@' then .ok { s with afterUser := true, colons := 0, percent := false }
  else if c = '%' then .ok { s with percent := true }
  else if isNameChar c then .ok s
  else .error .invalidCharacter

/-- Whether what was met makes up an authority. -/
def Scan.isWhole (s : Scan) : Bool :=
  s.opened == s.closed && s.colons ≤ 1 && !s.afterUser && !s.percent

/-- Whether a character ends an authority. -/
def endsAuthority (c : Char) : Bool := c == '/' || c == '?' || c == '#'

/-- The authority at the front of a text, and what follows it. -/
def splitAuthority (cs : List Char) : Except UriFault (List Char × List Char) := do
  let authority := cs.takeWhile (!endsAuthority ·)
  let s ← authority.foldlM Scan.step ⟨0, false, false, false, false⟩
  if s.isWhole then return (authority, cs.dropWhile (!endsAuthority ·))
  else throw .invalidAuthority

/-! ### Paths -/

/-- Whether a character may stand in a path. -/
def isPathChar (c : Char) : Bool := 0x20 < c.toNat && c ∉ ['<', '>', '\x60']

/-- Whether a character may stand in a query. -/
def isQueryChar (c : Char) : Bool := 0x20 < c.toNat && c ∉ ['"', '<', '>']

/-- A path with its query. A number sign and what follows it do not belong to it. -/
def target? (cs : List Char) : Except UriFault String :=
  let whole := cs.takeWhile (· ≠ '#')
  if (whole.takeWhile (· ≠ '?')).all isPathChar && (whole.dropWhile (· ≠ '?')).all isQueryChar then
    .ok (String.ofList whole)
  else .error .invalidCharacter

/-! ### Identifiers -/

/-- **The identifier of a text.** -/
def parse (text : String) : Except UriFault Uri :=
  if maxLength < text.utf8ByteSize then .error .tooLong
  else
    match text.toList with
    | [] => .error .empty
    | ['*'] => .ok ⟨none, "", "*"⟩
    | [c] =>
      if endsAuthority c && c ≠ '/' then .error .invalidCharacter
      else full [c]
    | cs => full cs
where
  /-- The identifier of a text that is not empty. -/
  full (cs : List Char) : Except UriFault Uri :=
    if cs.head? = some '/' then (target? cs).map fun t => ⟨none, "", t⟩
    else
      match splitScheme cs with
      | .error e => .error e
      | .ok none =>
        match splitAuthority cs with
        | .error e => .error e
        | .ok (authority, rest) =>
          if rest.isEmpty then .ok ⟨none, String.ofList authority, ""⟩ else .error .invalidFormat
      | .ok (some (scheme, rest)) =>
        match splitAuthority rest with
        | .error e => .error e
        | .ok (authority, rest) =>
          if authority.isEmpty then .error .invalidFormat
          else (target? rest).map fun t => ⟨some (String.ofList scheme), String.ofList authority, t⟩

/-! ### Servers -/

/-- What follows the last of a character, if there is one. -/
def afterLast? (sep : Char) (cs : List Char) : Option (List Char) :=
  if cs.contains sep then some (cs.reverse.takeWhile (· ≠ sep)).reverse else none

/-- The name of the host, without the user before it and the port behind it. An address with
colons stands in brackets, which belong to it. -/
def host (u : Uri) : String :=
  let cs := u.authority.toList
  let cs := (afterLast? '@' cs).getD cs
  if cs.head? = some '[' then String.ofList (cs.takeWhile (· ≠ ']') ++ [']'])
  else String.ofList (cs.takeWhile (· ≠ ':'))

/-- The port that is named, if it is one. -/
def namedPort? (u : Uri) : Option Nat :=
  (afterLast? ':' u.authority.toList).bind fun cs => Text.readNat? 65536 (String.ofList cs)

/-- The port of a scheme. -/
def usualPort (u : Uri) : Nat := if u.scheme = some "https" then 443 else 80

/-- The port of the server: that of its scheme where none is named. -/
def port (u : Uri) : Nat := u.namedPort?.getD u.usualPort

/-- What is at a path below an identifier. Slashes at the end of the identifier's own path do not
count, nor does its query. -/
def below (u : Uri) (path : String) : Uri :=
  let own := u.target.toList.takeWhile (· ≠ '?')
  { u with target := String.ofList (own.reverse.dropWhile (· = '/')).reverse ++ path }

/-- Whether an identifier says how to get to its server. -/
def isAbsolute (u : Uri) : Bool := u.scheme.isSome && !u.authority.isEmpty

/-- The host and the port as a message names them: a port that the scheme has anyway is left
out. -/
def hostText (u : Uri) : String :=
  u.host ++ (if u.port = u.usualPort then "" else ":" ++ toString u.port)

end Uri

end GceMachines.Http
